import TaskDesk.Proofs.Api.Rejection
import TaskDesk.Proofs.Clock.Poller
import TaskDesk.Proofs.Watch.Turn

/-!
# The course of a watch

A watch asks for the state of its task until it hears of the end. What the front end is told follows
from the results of the calls alone, however they are timed and retried and whenever the watch is
stopped: one update for every state that is not the last one, nothing for a failure, and one last
event for the end of the task.

## Main definitions

- `Watch.eventsOf` — what the front end is told about the results of calls
- `Watch.Moves` — what one step does to the run of the poller, and what is noted about it
- `Watch.Placed` — where a watch goes on
- `Watch.Ledger` — the notes so far agree with the run of the poller

## Main results

- `Watch.Placed.turn` — every step is one of the moves, and none touches the credentials
- `Watch.tells_by_results` — what a watch tells, when it ends and what a stop leaves
-/

namespace TaskDesk

namespace RetryPolicy

/-- A policy that hands rejections on drops nothing. -/
theorem judge_ne_reject {p : RetryPolicy} (h : p.dropRejected = false) (left : Nat)
    (o : Except ApiError ApiResponse) (e : ApiError) : p.judge left o ≠ .reject e := by
  cases o with
  | ok r =>
    simp only [judge, h]
    split
    · simp
    · split <;> simp
  | error e' =>
    simp only [judge]
    split <;> simp

end RetryPolicy

/-- The call of a tick of the first run, which keeps a rejected credential. -/
def FlightNext.Asks : FlightNext WatchPurpose → Prop
  | .go _ step => step.flight.purpose = .tick 1 ∧ step.flight.policy.dropRejected = false
  | .landed purpose _ => purpose = .tick 1

theorem World.asks_launch {κ : Type} [Vault κ] (w : World κ) (p : RetryPolicy) (kind : TaskKind)
    (id : TaskId) : (w.launch p (.generationTask kind id) (WatchPurpose.tick 1)).Asks := by
  unfold World.launch
  split
  · rfl
  · exact ⟨rfl, Bool.and_false _⟩

/-- The call of a tick sends its request and waits, and nothing else. -/
theorem FlightStep.asks_run {κ : Type} [Vault κ] (w : World κ) {step : FlightStep WatchPurpose}
    (hpurpose : step.flight.purpose = .tick 1) (hkeeps : step.flight.policy.dropRejected = false) :
    (step.run w).1.Asks ∧ (step.run w).2.vault = w.vault ∧
      (step.run w).2.events = w.events := by
  cases step with
  | send f =>
    simp only [run, World.post]
    split <;> exact ⟨⟨hpurpose, hkeeps⟩, rfl, rfl⟩
  | receive f o =>
    simp only [run]
    split
    · exact ⟨hpurpose, rfl, rfl⟩
    · exact ⟨hpurpose, rfl, rfl⟩
    · next e he => exact absurd he (RetryPolicy.judge_ne_reject hkeeps _ _ e)
    · exact ⟨⟨hpurpose, hkeeps⟩, rfl, rfl⟩

namespace Watch

/-! ## What is to be told -/

/-- Some call found the task at its end. -/
def Finished (results : List (Except ApiError TaskRecord)) : Prop :=
  ∃ t, .ok t ∈ results ∧ t.status.isTerminal = true

theorem finished_append {results more : List (Except ApiError TaskRecord)} :
    Finished (results ++ more) ↔ Finished results ∨ Finished more := by
  simp only [Finished, List.mem_append, or_and_right, exists_or]

/-- What the front end is told about the results of calls: every state up to the first one that is
the end of the task, and nothing about failures. -/
def eventsOf : List (Except ApiError TaskRecord) → List Event
  | [] => []
  | .ok t :: results =>
    if t.status.isTerminal then [.taskFinished t] else .taskUpdated t :: eventsOf results
  | .error _ :: results => eventsOf results

theorem eventsOf_append {results : List (Except ApiError TaskRecord)} (h : ¬ Finished results)
    (more : List (Except ApiError TaskRecord)) :
    eventsOf (results ++ more) = eventsOf results ++ eventsOf more := by
  induction results with
  | nil => rfl
  | cons result results ih =>
    have hrest : ¬ Finished results := fun ⟨t, hmem, ht⟩ => h ⟨t, List.mem_cons_of_mem _ hmem, ht⟩
    cases result with
    | error e => exact ih hrest
    | ok t =>
      have ht : ¬ t.status.isTerminal = true := fun ht => h ⟨t, List.mem_cons_self, ht⟩
      simp only [List.cons_append, eventsOf, if_neg ht, ih hrest]

/-- What a tick decides on a result. -/
def controlOf : Except ApiError TaskRecord → PollControl
  | .ok t => if t.status.isTerminal then .stop else .goOn
  | .error _ => .failed

theorem controlOf_eq_stop {result : Except ApiError TaskRecord} :
    controlOf result = .stop ↔ Finished [result] := by
  cases result with
  | error e => simp [controlOf, Finished]
  | ok t => by_cases ht : t.status.isTerminal = true <;> simp [controlOf, Finished, ht]

/-! ## One step -/

/-- What one step does to the run of the poller, and what is noted about it. -/
inductive Moves (r : PollRun) : List WatchNote → PollRun → Prop
  | rests : Moves r [] r
  | asks (now : Nat) (hpos : 0 < r.interval) (hs : r.stopped = false) (ht : r.ticking = false) :
      Moves r [.asked] (r.beginTick now)
  | sends (ht : r.ticking = true) (attempts : List Attempt) : Moves r (attempts.map .sent) r
  | hears (ht : r.ticking = true) (result : Except ApiError TaskRecord) :
      Moves r (WatchNote.heard result (eventsOf [result])) (r.endTick (controlOf result))
  | stops : Moves r [.stopped] (if r.stopped then r else r.stop)
  | changes : Moves r [.changed] r

variable {κ : Type}

/-- What a watch is about to do. -/
def activities (w : Watch κ) : List WatchActivity :=
  w.running.toList ++ w.agenda.map (·.job)

/-- What a watch with that run is about to do: the call of the tick in flight, the wait for the next
tick, or nothing if there is none. -/
inductive Position (r : PollRun) : List WatchActivity → Prop
  | calling {next : FlightNext WatchPurpose} (ht : r.ticking = true) (hnext : next.Asks) :
      Position r [.call next]
  | waiting {a : WatchActivity} (ht : r.ticking = false)
      (ha : a = .wait 1 ∨ a = .tick 1 ∧ 0 < r.interval) : Position r [a]
  | idle (ht : r.ticking = false) (hover : r.stopped = true ∨ r.interval = 0) : Position r []

/-- A watch with its one run, in its place. -/
structure Placed (r : PollRun) (w : Watch κ) : Prop where
  poller_eq : w.poller = ⟨[r]⟩
  heard : w.isHeard = true
  position : Position r w.activities

theorem placed_begin (kind : TaskKind) (id : TaskId) (interval : Nat) (policy : RetryPolicy)
    (world : World κ) :
    Placed { interval, due := world.now + interval } (begin kind id interval policy world) where
  poller_eq := rfl
  heard := rfl
  position := .waiting rfl (.inl rfl)

theorem Position.length_le {r : PollRun} {as : List WatchActivity} (h : Position r as) :
    as.length ≤ 1 := by
  cases h with
  | idle => exact Nat.zero_le _
  | calling | waiting => exact Nat.le_refl _

/-- A stop changes nothing about what a watch is about to do. -/
theorem Position.stop {r : PollRun} {as : List WatchActivity} (h : Position r as) :
    Position (if r.stopped then r else r.stop) as := by
  split
  · exact h
  · cases h with
    | calling ht hnext => exact .calling ht hnext
    | waiting ht ha => exact .waiting ht ha
    | idle ht => exact .idle ht (.inl rfl)

/-- The only activity there is goes on. -/
theorem Placed.activities_eq {r : PollRun} {w : Watch κ} (h : Placed r w) {a : WatchActivity}
    (ha : w.running = some a) : w.agenda = [] ∧ w.activities = [a] := by
  have hlength := h.position.length_le
  rw [activities, ha] at hlength ⊢
  cases hagenda : w.agenda with
  | nil => exact ⟨rfl, rfl⟩
  | cons e es => simp [hagenda] at hlength

theorem activities_goOn {w : Watch κ} (hagenda : w.agenda = []) (delay : Nat) (urgent : Bool)
    (a : WatchActivity) : (w.goOn delay urgent a).activities = [a] := by
  unfold goOn activities
  split <;> simp [hagenda]

theorem world_goOn (w : Watch κ) (delay : Nat) (urgent : Bool) (a : WatchActivity) :
    (w.goOn delay urgent a).world = w.world := by
  unfold goOn
  split <;> rfl

theorem placed_goOn {r : PollRun} {w : Watch κ} (hpoller : w.poller = ⟨[r]⟩)
    (hheard : w.isHeard = true) (hagenda : w.agenda = []) (delay : Nat) (urgent : Bool)
    {a : WatchActivity} (ha : Position r [a]) : Placed r (w.goOn delay urgent a) := by
  have hactivities := activities_goOn hagenda delay urgent a
  refine ⟨?_, ?_, hactivities ▸ ha⟩ <;> unfold goOn <;> split <;> assumption

theorem world_awaitTick (w : Watch κ) (run : Nat) : (w.awaitTick run).world = w.world := by
  unfold awaitTick
  split
  · exact world_goOn ..
  · rfl

/-- A run whose tick is over waits for the next one, if there is one. -/
theorem placed_awaitTick {r : PollRun} {w : Watch κ} (hpoller : w.poller = ⟨[r]⟩)
    (hheard : w.isHeard = true) (hagenda : w.agenda = []) (ht : r.ticking = false) :
    Placed r (w.awaitTick 1) := by
  have hdue : w.poller.nextDue? 1 =
      if r.stopped = true ∨ r.interval = 0 then none else some r.due := by
    rw [hpoller]
    rfl
  unfold awaitTick
  by_cases hover : r.stopped = true ∨ r.interval = 0
  · rw [hdue, if_pos hover]
    refine ⟨hpoller, hheard, ?_⟩
    rw [activities, hagenda]
    exact .idle ht hover
  · rw [hdue, if_neg hover]
    have hpos : 0 < r.interval := Nat.pos_of_ne_zero fun h => hover (.inr h)
    exact placed_goOn hpoller hheard hagenda _ _ (.waiting ht (.inr ⟨rfl, hpos⟩))

theorem news_eq_nil {w u : Watch κ} (h : u.world = w.world) : w.news u = [] := by
  simp [news, h]

/-- The end of a tick tells what its result is worth. -/
theorem report_eq (w : Watch κ) (hheard : w.isHeard = true)
    (result : Except ApiError TaskRecord) :
    w.report 1 result =
      { w with
        poller := w.poller.endTick 1 (controlOf result)
        world := { w.world with events := w.world.events ++ eventsOf [result] } }.awaitTick 1 := by
  cases result with
  | error e => simp [report, endTick, eventsOf, controlOf]
  | ok t =>
    by_cases ht : t.status.isTerminal = true <;>
      simp [report, endTick, tell, World.emit, eventsOf, controlOf, ht, hheard]

/-- The watch makes one of the moves and leaves the credentials alone. -/
def Advances (r : PollRun) (w : Watch κ) (new : List WatchNote) (u : Watch κ) : Prop :=
  ∃ r', Moves r new r' ∧ Placed r' u ∧ u.world.vault = w.world.vault

/-- A wait for the first tick is over. -/
theorem Placed.awaitTick {r : PollRun} {w : Watch κ} (h : Placed r w) (hagenda : w.agenda = [])
    (ht : r.ticking = false) :
    Advances r w (w.notes (.wait 1) ++ w.news ({ w with running := none }.awaitTick 1))
      ({ w with running := none }.awaitTick 1) := by
  have hworld := world_awaitTick { w with running := none } 1
  have hnews : w.news _ = [] := news_eq_nil hworld
  refine ⟨r, ?_, placed_awaitTick h.poller_eq h.heard hagenda ht, by rw [hworld]⟩
  rw [hnews]
  exact .rests

/-- The tick in flight ends with its result. -/
theorem Placed.report {r : PollRun} {w : Watch κ} (h : Placed r w) (hagenda : w.agenda = [])
    (ht : r.ticking = true) (result : Except ApiError TaskRecord) :
    Advances r w ([.answered result] ++ w.news ({ w with running := none }.report 1 result))
      ({ w with running := none }.report 1 result) := by
  have hreport := report_eq { w with running := none } h.heard result
  have hnews : w.news ({ w with running := none }.report 1 result) =
      (eventsOf [result]).map .told := by
    rw [hreport, news, world_awaitTick]
    simp
  refine ⟨r.endTick (controlOf result), ?_, ?_, ?_⟩
  · rw [hnews]
    exact .hears ht result
  · rw [hreport]
    refine placed_awaitTick ?_ h.heard hagenda (r.ticking_endTick _)
    change w.poller.endTick 1 _ = _
    rw [h.poller_eq]
    rfl
  · rw [hreport, world_awaitTick]

variable [Vault κ]

/-- A step of a call: it goes on with its request, or the tick ends with its result. -/
theorem Placed.proceedCall {r : PollRun} {w : Watch κ} (h : Placed r w)
    (hagenda : w.agenda = []) (ht : r.ticking = true) {next : FlightNext WatchPurpose}
    (hnext : next.Asks) :
    Advances r w (w.notes (.call next) ++ w.news ({ w with running := none }.proceedCall next))
      ({ w with running := none }.proceedCall next) := by
  cases next with
  | landed purpose o =>
    obtain rfl : purpose = .tick 1 := hnext
    exact h.report hagenda ht _
  | go delay step =>
    obtain ⟨hpurpose, hkeeps⟩ := hnext
    by_cases hdelay : delay = 0
    · obtain ⟨hasks, hvault, hevents⟩ := step.asks_run w.world hpurpose hkeeps
      have hgo : { w with running := none }.proceedCall (.go delay step) =
          { w with world := (step.run w.world).2, running := some (.call (step.run w.world).1) } :=
        if_pos hdelay
      rw [hgo]
      refine ⟨r, ?_, ⟨h.poller_eq, h.heard, ?_⟩, hvault⟩
      · simp only [notes, news, hevents, List.drop_length, List.map_nil, List.append_nil,
          List.nil_append]
        exact .sends ht _
      · rw [activities, hagenda]
        exact .calling ht hasks
    · let urgent : Bool := step.flight.purpose = .beside
      have hgo : { w with running := none }.proceedCall (.go delay step) =
          { w with running := none }.goOn delay urgent (.call (.go 0 step)) :=
        if_neg hdelay
      have hworld := world_goOn { w with running := none } delay urgent (.call (.go 0 step))
      have hnews : w.news _ = [] := news_eq_nil hworld
      rw [hgo]
      refine ⟨r, ?_, ?_, by rw [hworld]⟩
      · rw [hnews]
        exact .rests
      · exact placed_goOn h.poller_eq h.heard hagenda _ _ (.calling ht ⟨hpurpose, hkeeps⟩)

theorem world_beginTick (w : Watch κ) (run : Nat) : (w.beginTick run).world = w.world := by
  unfold beginTick
  split <;> rfl

/-- A tick that is due begins, unless the watch was stopped. -/
theorem Placed.beginTick {r : PollRun} {w : Watch κ} (h : Placed r w) (hagenda : w.agenda = [])
    (hpos : 0 < r.interval) (ht : r.ticking = false) :
    Advances r w (w.notes (.tick 1) ++ w.news ({ w with running := none }.beginTick 1))
      ({ w with running := none }.beginTick 1) := by
  have hnews : w.news _ = [] := news_eq_nil (world_beginTick { w with running := none } 1)
  have hbegins : w.poller.beginTick? 1 w.world.now =
      if r.stopped = true ∨ r.ticking = true then none
      else some ⟨[r.beginTick w.world.now]⟩ := by
    rw [h.poller_eq]
    rfl
  cases hs : r.stopped with
  | true =>
    rw [hs, if_pos (.inl rfl)] at hbegins
    have hidle : { w with running := none }.beginTick 1 = { w with running := none } := by
      simp [Watch.beginTick, hbegins]
    have hnotes : w.notes (.tick 1) = [] := by simp [notes, hbegins]
    rw [hnotes, hnews, hidle]
    refine ⟨r, .rests, ⟨h.poller_eq, h.heard, ?_⟩, rfl⟩
    rw [activities, hagenda]
    exact .idle ht (.inl hs)
  | false =>
    rw [hs, ht, if_neg (by decide)] at hbegins
    have hgo : { w with running := none }.beginTick 1 =
        { w with
          poller := ⟨[r.beginTick w.world.now]⟩
          running := some (.call (w.world.launch w.policy w.statusCall (.tick 1))) } := by
      simp [Watch.beginTick, hbegins, statusCall]
    have hnotes : w.notes (.tick 1) = [.asked] := by simp [notes, hbegins]
    rw [hnotes, hnews, hgo]
    refine ⟨_, .asks w.world.now hpos hs ht, ⟨rfl, h.heard, ?_⟩, rfl⟩
    rw [activities, hagenda]
    exact .calling rfl (w.world.asks_launch w.policy w.kind w.id)

/-- Every step of a watch is one of the moves, and none of its own touches the credentials. -/
theorem Placed.turn {r : PollRun} {w u : Watch κ} {new : List WatchNote} (h : Placed r w)
    (hturn : Turn w new u) :
    ∃ r', Moves r new r' ∧ Placed r' u ∧ (.changed ∉ new → u.world.vault = w.world.vault) := by
  cases hturn with
  | @goOn a ha =>
    obtain ⟨hagenda, hactivities⟩ := h.activities_eq ha
    have hposition := h.position
    rw [hactivities] at hposition
    have hadvances : Advances r w (w.notes a ++ w.news ({ w with running := none }.step a))
        ({ w with running := none }.step a) := by
      cases hposition with
      | calling ht hnext => exact h.proceedCall hagenda ht hnext
      | waiting ht hwaits =>
        rcases hwaits with rfl | ⟨rfl, hpos⟩
        · exact h.awaitTick hagenda ht
        · exact h.beginTick hagenda hpos ht
    obtain ⟨r', hmoves, hplaced, hvault⟩ := hadvances
    exact ⟨r', hmoves, hplaced, fun _ => hvault⟩
  | @takeUp before e after hnone hagenda =>
    refine ⟨r, .rests, ⟨h.poller_eq, h.heard, ?_⟩, fun _ => rfl⟩
    have hlength := h.position.length_le
    rw [activities, hnone, hagenda] at hlength
    have hbefore : before = [] := List.length_eq_zero_iff.mp (by simp at hlength; omega)
    have hafter : after = [] := List.length_eq_zero_iff.mp (by simp at hlength; omega)
    have hposition := h.position
    rw [activities, hnone, hagenda, hbefore, hafter] at hposition
    rw [activities, hbefore, hafter]
    exact hposition
  | stop =>
    refine ⟨_, .stops, ⟨?_, h.heard, h.position.stop⟩, fun _ => rfl⟩
    change w.poller.stop = _
    rw [h.poller_eq]
    rfl
  | outside world =>
    exact ⟨r, .changes, ⟨h.poller_eq, h.heard, h.position⟩,
      fun hnot => absurd List.mem_cons_self hnot⟩

/-! ## What the notes say -/

/-- The notes so far agree with the run of the poller. -/
structure Ledger (notes : List WatchNote) (r : PollRun) : Prop where
  tales_eq : WatchNote.tales notes = eventsOf (WatchNote.results notes)
  stopped_iff :
    r.stopped = true ↔ .stopped ∈ notes ∨ Finished (WatchNote.results notes)
  endMarked : r.EndMarked
  /-- A call is made only by a tick, for which there has to be an interval. -/
  interval_pos : .asked ∈ notes → 0 < r.interval
  /-- At most one call has no result yet. -/
  asks_eq : notes.countP WatchNote.isAsk = (WatchNote.results notes).length + r.ticking.toNat
  /-- No call is made once the task is at its end. -/
  unfinished : r.ticking = true → ¬ Finished (WatchNote.results notes)

theorem ledger_nil (interval due : Nat) : Ledger [] { interval, due } where
  tales_eq := rfl
  stopped_iff := by simp [WatchNote.results, Finished]
  endMarked := rfl
  interval_pos := nofun
  asks_eq := rfl
  unfinished := nofun

/-- Notes that say nothing about calls. -/
theorem Ledger.quiet {notes new : List WatchNote} {r : PollRun} (h : Ledger notes r)
    (hnew : ∀ note ∈ new, (∃ x, note = .sent x) ∨ note = .changed) : Ledger (notes ++ new) r := by
  have hresults : WatchNote.results new = [] := by
    refine List.filterMap_eq_nil_iff.mpr fun note hmem => ?_
    rcases hnew note hmem with ⟨x, rfl⟩ | rfl <;> rfl
  have htales : WatchNote.tales new = [] := by
    refine List.filterMap_eq_nil_iff.mpr fun note hmem => ?_
    rcases hnew note hmem with ⟨x, rfl⟩ | rfl <;> rfl
  have hasks : new.countP WatchNote.isAsk = 0 := by
    refine List.countP_eq_zero.mpr fun note hmem => ?_
    rcases hnew note hmem with ⟨x, rfl⟩ | rfl <;> nofun
  have hstop : .stopped ∉ new := fun hmem => by
    rcases hnew _ hmem with ⟨x, hx⟩ | hx <;> cases hx
  have hall : WatchNote.results (notes ++ new) = WatchNote.results notes := by
    rw [WatchNote.results_append, hresults, List.append_nil]
  constructor
  · rw [WatchNote.tales_append, htales, hall, List.append_nil, h.tales_eq]
  · simpa [hall, hstop] using h.stopped_iff
  · exact h.endMarked
  · intro hasked
    rcases List.mem_append.mp hasked with hasked | hasked
    · exact h.interval_pos hasked
    · rcases hnew _ hasked with ⟨x, hx⟩ | hx <;> cases hx
  · rw [List.countP_append, hasks, hall]
    exact h.asks_eq
  · rw [hall]
    exact h.unfinished

theorem Ledger.ask {notes : List WatchNote} {r : PollRun} (h : Ledger notes r) (now : Nat)
    (hpos : 0 < r.interval) (hs : r.stopped = false) (ht : r.ticking = false) :
    Ledger (notes ++ [.asked]) (r.beginTick now) := by
  have hgoes : ¬ (.stopped ∈ notes ∨ Finished (WatchNote.results notes)) := by
    rw [← h.stopped_iff, hs]
    decide
  have hall : WatchNote.results (notes ++ [.asked]) = WatchNote.results notes := by
    simp [WatchNote.results, WatchNote.result?]
  constructor
  · rw [hall, ← h.tales_eq]
    simp [WatchNote.tales, WatchNote.tale?]
  · rw [hall]
    simpa [PollRun.beginTick, hs] using hgoes
  · exact h.endMarked.beginTick hs now
  · exact fun _ => hpos
  · have hasks := h.asks_eq
    rw [ht] at hasks
    rw [hall, List.countP_append, hasks]
    rfl
  · rw [hall]
    exact fun _ hfinished => hgoes (.inr hfinished)

theorem Ledger.hear {notes : List WatchNote} {r : PollRun} (h : Ledger notes r)
    (ht : r.ticking = true) (result : Except ApiError TaskRecord) :
    Ledger (notes ++ WatchNote.heard result (eventsOf [result]))
      (r.endTick (controlOf result)) := by
  have hall : WatchNote.results (notes ++ WatchNote.heard result (eventsOf [result])) =
      WatchNote.results notes ++ [result] := by
    rw [WatchNote.results_append, WatchNote.results_heard]
  constructor
  · rw [WatchNote.tales_append, WatchNote.tales_heard, hall, h.tales_eq,
      eventsOf_append (h.unfinished ht)]
  · rw [PollRun.stopped_endTick, h.stopped_iff, controlOf_eq_stop, hall, finished_append,
      List.mem_append, or_iff_left (WatchNote.stopped_not_mem_heard _ _), or_assoc]
  · exact h.endMarked.endTick _
  · intro hasked
    rw [r.interval_endTick]
    refine h.interval_pos ((List.mem_append.mp hasked).resolve_right ?_)
    exact WatchNote.asked_not_mem_heard _ _
  · have hasks := h.asks_eq
    rw [ht] at hasks
    rw [hall, List.countP_append, WatchNote.countP_isAsk_heard, hasks, r.ticking_endTick,
      List.length_append]
    rfl
  · rw [r.ticking_endTick]
    nofun

theorem Ledger.stop {notes : List WatchNote} {r : PollRun} (h : Ledger notes r) :
    Ledger (notes ++ [.stopped]) (if r.stopped then r else r.stop) := by
  have hall : WatchNote.results (notes ++ [.stopped]) = WatchNote.results notes := by
    simp [WatchNote.results, WatchNote.result?]
  have htales : WatchNote.tales (notes ++ [.stopped]) =
      eventsOf (WatchNote.results (notes ++ [.stopped])) := by
    rw [hall, ← h.tales_eq]
    simp [WatchNote.tales, WatchNote.tale?]
  have hasks : List.countP WatchNote.isAsk (notes ++ [.stopped]) =
      (WatchNote.results (notes ++ [.stopped])).length + r.ticking.toNat := by
    rw [hall, List.countP_append, ← h.asks_eq]
    rfl
  have hnoted : WatchNote.stopped ∈ notes ++ [.stopped] ∨
      Finished (WatchNote.results (notes ++ [.stopped])) := .inl List.mem_concat_self
  have hunfinished : r.ticking = true →
      ¬ Finished (WatchNote.results (notes ++ [.stopped])) := by
    rw [hall]
    exact h.unfinished
  have hpos : .asked ∈ notes ++ [.stopped] → 0 < r.interval := by
    simpa using h.interval_pos
  split
  · next hs => exact ⟨htales, iff_of_true hs hnoted, h.endMarked, hpos, hasks, hunfinished⟩
  · exact ⟨htales, iff_of_true rfl hnoted, r.endMarked_stop, hpos, hasks, hunfinished⟩

/-- Where there is a result a call was made. -/
theorem Ledger.interval_pos_of_finished {notes : List WatchNote} {r : PollRun}
    (h : Ledger notes r) (hfinished : Finished (WatchNote.results notes)) : 0 < r.interval := by
  obtain ⟨t, ht, -⟩ := hfinished
  have hasks : 0 < notes.countP WatchNote.isAsk := by
    rw [h.asks_eq]
    exact Nat.add_pos_left (List.length_pos_of_mem ht) _
  obtain ⟨note, hmem, hask⟩ := List.countP_pos_iff.mp hasks
  cases note with
  | asked => exact h.interval_pos hmem
  | _ => cases hask

theorem Ledger.move {notes new : List WatchNote} {r r' : PollRun} (h : Ledger notes r)
    (hmoves : Moves r new r') : Ledger (notes ++ new) r' := by
  cases hmoves with
  | rests => exact h.quiet (List.forall_mem_nil _)
  | asks now hpos hs ht => exact h.ask now hpos hs ht
  | sends ht attempts =>
    refine h.quiet fun note hmem => .inl ?_
    obtain ⟨x, -, rfl⟩ := List.mem_map.mp hmem
    exact ⟨x, rfl⟩
  | hears ht result => exact h.hear ht result
  | stops => exact h.stop
  | changes => exact h.quiet fun note hmem => .inr (List.mem_singleton.mp hmem)

/-! ## The whole course -/

theorem Moves.interval_eq {r r' : PollRun} {new : List WatchNote} (h : Moves r new r') :
    r'.interval = r.interval := by
  cases h with
  | stops => split <;> rfl
  | hears => exact r.interval_endTick _
  | _ => rfl

/-- A watch that was stopped makes no call. -/
theorem Moves.asked_not_mem {r r' : PollRun} {new : List WatchNote} (h : Moves r new r')
    (hs : r.stopped = true) : .asked ∉ new := by
  cases h with
  | asks _ _ hgoes => rw [hs] at hgoes; cases hgoes
  | hears => exact WatchNote.asked_not_mem_heard _ _
  | _ => simp

/-- A watch that is over does nothing. -/
theorem Moves.isOwn_eq_false {r r' : PollRun} {new : List WatchNote} (h : Moves r new r')
    (hs : r.stopped = true) (ht : r.ticking = false) : ∀ note ∈ new, note.isOwn = false := by
  cases h with
  | asks _ _ hgoes => rw [hs] at hgoes; cases hgoes
  | sends hbusy | hears hbusy => rw [ht] at hbusy; cases hbusy
  | rests => exact List.forall_mem_nil _
  | stops | changes => simp [WatchNote.isOwn]

/-- What is known of a watch at every point of its course. -/
def InCourse (interval : Nat) (notes : List WatchNote) (w : Watch κ) : Prop :=
  ∃ r : PollRun, r.interval = interval ∧ Placed r w ∧ Ledger notes r

theorem InCourse.turn {interval : Nat} {notes new : List WatchNote} {w u : Watch κ}
    (h : InCourse interval notes w) (hturn : Turn w new u) :
    InCourse interval (notes ++ new) u := by
  obtain ⟨r, hinterval, hplaced, hledger⟩ := h
  obtain ⟨r', hmoves, hplaced', -⟩ := hplaced.turn hturn
  exact ⟨r', hmoves.interval_eq.trans hinterval, hplaced', hledger.move hmoves⟩

theorem Turns.inCourse {interval : Nat} {notes later : List WatchNote} {w u : Watch κ}
    (hlater : Turns w later u) (h : InCourse interval notes w) :
    InCourse interval (notes ++ later) u := by
  induction hlater with
  | refl => rw [List.append_nil]; exact h
  | tail _ hturn ih => rw [← List.append_assoc]; exact ih.turn hturn

/-- Once the task is at its end the watch does nothing any more. -/
theorem InCourse.over {interval : Nat} {notes later : List WatchNote} {w u : Watch κ}
    (h : InCourse interval notes w) (hfinished : Finished (WatchNote.results notes))
    (hlater : Turns w later u) : ∀ note ∈ later, note.isOwn = false := by
  induction hlater with
  | refl => exact List.forall_mem_nil _
  | @tail v _ before _ hbefore hturn ih =>
    obtain ⟨r, -, hplaced, hledger⟩ := hbefore.inCourse h
    obtain ⟨r', hmoves, -⟩ := hplaced.turn hturn
    have hover : Finished (WatchNote.results (notes ++ before)) := by
      rw [WatchNote.results_append]
      exact finished_append.mpr (.inl hfinished)
    have hs : r.stopped = true := hledger.stopped_iff.mpr (.inr hover)
    have ht : r.ticking = false := by simpa using fun ht => hledger.unfinished ht hover
    exact List.forall_mem_append.mpr ⟨ih, hmoves.isOwn_eq_false hs ht⟩

/-- After a stop from outside no call is made. -/
theorem InCourse.asked_not_mem {interval : Nat} {notes later : List WatchNote} {w u : Watch κ}
    (h : InCourse interval notes w) (hstopped : .stopped ∈ notes) (hlater : Turns w later u) :
    .asked ∉ later := by
  induction hlater with
  | refl => nofun
  | tail hbefore hturn ih =>
    obtain ⟨r, -, hplaced, hledger⟩ := hbefore.inCourse h
    obtain ⟨r', hmoves, -⟩ := hplaced.turn hturn
    have hs : r.stopped = true :=
      hledger.stopped_iff.mpr (.inl (List.mem_append_left _ hstopped))
    rw [List.mem_append]
    exact not_or.mpr ⟨ih, hmoves.asked_not_mem hs⟩

/-- The watch never changes the credentials. -/
theorem InCourse.vault_eq {interval : Nat} {notes later : List WatchNote} {w u : Watch κ}
    (h : InCourse interval notes w) (hlater : Turns w later u) (hown : .changed ∉ later) :
    u.world.vault = w.world.vault := by
  induction hlater with
  | refl => rfl
  | tail hbefore hturn ih =>
    rw [List.mem_append, not_or] at hown
    obtain ⟨r, -, hplaced, -⟩ := hbefore.inCourse h
    obtain ⟨r', -, -, hvault⟩ := hplaced.turn hturn
    rw [hvault hown.2, ih hown.1]

/-- After a stop at most the call in flight still ends, and is told about. -/
theorem InCourse.after_stop {interval : Nat} {notes later : List WatchNote} {w u : Watch κ}
    (h : InCourse interval notes w) (hstopped : .stopped ∈ notes) (hlater : Turns w later u) :
    WatchNote.tales later = eventsOf (WatchNote.results later) ∧
      (WatchNote.results later = [] ∨ ∃ result, WatchNote.results later = [result] ∧
        notes.countP WatchNote.isAsk = (WatchNote.results notes).length + 1) := by
  obtain ⟨r', -, -, hafter⟩ := hlater.inCourse h
  have hnot := h.asked_not_mem hstopped hlater
  obtain ⟨r, -, -, hbefore⟩ := h
  have hasks : later.countP WatchNote.isAsk = 0 := by
    refine List.countP_eq_zero.mpr fun note hmem hask => ?_
    cases note with
    | asked => exact hnot hmem
    | _ => cases hask
  have hcount := hafter.asks_eq
  rw [List.countP_append, hasks, hbefore.asks_eq, WatchNote.results_append,
    List.length_append] at hcount
  have htales := hafter.tales_eq
  rw [WatchNote.tales_append, WatchNote.results_append, hbefore.tales_eq] at htales
  cases hresults : WatchNote.results later with
  | nil =>
    rw [hresults, List.append_nil] at htales
    exact ⟨List.append_right_eq_self.mp htales, .inl rfl⟩
  | cons result rest =>
    rw [hresults] at hcount htales
    have ht : r.ticking = true := by
      cases ht : r.ticking with
      | true => rfl
      | false =>
        simp [ht] at hcount
        omega
    rw [eventsOf_append (hbefore.unfinished ht)] at htales
    have hrest : rest = [] := by
      simp [ht] at hcount
      exact List.length_eq_zero_iff.mp (by omega)
    refine ⟨List.append_cancel_left htales, .inr ⟨result, by rw [hrest], ?_⟩⟩
    rw [hbefore.asks_eq, ht]
    rfl

/-- A watch that may go on has something to go on with. -/
theorem exists_next? {w : Watch κ} (h : w.activities ≠ []) : ∃ u, w.next? none = some u := by
  unfold next?
  cases hrunning : w.running with
  | some a => exact ⟨_, rfl⟩
  | none =>
    have hagenda : w.agenda ≠ [] := by
      rintro hnil
      rw [activities, hrunning, hnil] at h
      exact h rfl
    obtain ⟨e, rest, hdue⟩ := Agenda.exists_dueBy?_none hagenda
    rw [hdue]
    exact ⟨_, rfl⟩

/-- In every order of what happens, what a watch tells follows from the results of its calls: an
update for every state that is not the last one, nothing for a failure, and one event for the end of
the task, which is the last one. Until then the watch goes on unless it is stopped from outside, and
after that it makes no call, tells nothing and is over. A stop at any moment lets the call in flight
come to its end, and what it says is still told, but no other call is made. The credentials are
never changed by the watch. -/
theorem tells_by_results (kind : TaskKind) (id : TaskId) (interval : Nat) (policy : RetryPolicy)
    (world : World κ) {notes : List WatchNote} {w : Watch κ}
    (h : Turns (begin kind id interval policy world) notes w) :
    WatchNote.tales notes = eventsOf (WatchNote.results notes) ∧
      (.stopped ∉ notes → ¬ Finished (WatchNote.results notes) →
        w.poller.isActive = true ∧ w.hasEnded = false ∧
          (0 < interval → ∃ u, w.next? none = some u)) ∧
      (Finished (WatchNote.results notes) → w.poller.isActive = false ∧ w.hasEnded = true) ∧
      ∀ later u, Turns w later u →
        (Finished (WatchNote.results notes) → ∀ note ∈ later, note.isOwn = false) ∧
        (.stopped ∈ notes → .asked ∉ later ∧
          WatchNote.tales later = eventsOf (WatchNote.results later) ∧
          (WatchNote.results later = [] ∨ ∃ result, WatchNote.results later = [result] ∧
            notes.countP WatchNote.isAsk = (WatchNote.results notes).length + 1)) ∧
        (.changed ∉ later → u.world.vault = w.world.vault) := by
  have hbegin : InCourse interval [] (begin kind id interval policy world) :=
    ⟨_, rfl, placed_begin .., ledger_nil ..⟩
  have hcourse : InCourse interval notes w := h.inCourse hbegin
  obtain ⟨r, hinterval, hplaced, hledger⟩ := hcourse
  have hactive : w.poller.isActive = (!r.stopped && !r.ended) := by
    rw [hplaced.poller_eq]
    rfl
  have hends : w.hasEnded = r.ended := by
    rw [hasEnded, hplaced.poller_eq]
    rfl
  refine ⟨hledger.tales_eq, fun hgoes hunfinished => ?_, fun hfinished => ?_,
    fun later u hlater => ⟨fun hfinished => ?_, fun hstopped => ?_, fun hown => ?_⟩⟩
  · have hs : r.stopped = false := by
      simpa using fun hs => (hledger.stopped_iff.mp hs).elim hgoes hunfinished
    have hended : r.ended = false := by rw [hledger.endMarked, hs]; rfl
    refine ⟨by rw [hactive, hs, hended]; rfl, by rw [hends, hended],
      fun hpos => exists_next? ?_⟩
    have hposition := hplaced.position
    intro hnil
    rw [hnil] at hposition
    cases hposition with
    | idle ht hover =>
      rcases hover with hover | hover
      · rw [hs] at hover; cases hover
      · rw [← hinterval, hover] at hpos; cases hpos
  · have hs : r.stopped = true := hledger.stopped_iff.mpr (.inr hfinished)
    have ht : r.ticking = false := by simpa using fun ht => hledger.unfinished ht hfinished
    have hpos : 0 < r.interval := hledger.interval_pos_of_finished hfinished
    exact ⟨by simp [hactive, hs], by simp [hends, hledger.endMarked.ended_eq hpos, hs, ht]⟩
  · exact InCourse.over ⟨r, hinterval, hplaced, hledger⟩ hfinished hlater
  · have hcourse : InCourse interval notes w := ⟨r, hinterval, hplaced, hledger⟩
    exact ⟨hcourse.asked_not_mem hstopped hlater, hcourse.after_stop hstopped hlater⟩
  · exact InCourse.vault_eq ⟨r, hinterval, hplaced, hledger⟩ hlater hown

/-- A token that is rejected once, and then a task that has failed:
`{"data":{"id":"t","status":"failed"}}`. -/
private def rejectedOnce : World MemoryVault :=
  { vault := ⟨{ token := some "k" }⟩
    script :=
      [⟨.response ⟨401, []⟩, 0⟩,
        ⟨.response
          ⟨200, [123, 34, 100, 97, 116, 97, 34, 58, 123, 34, 105, 100, 34, 58, 34, 116, 34, 44, 34,
            115, 116, 97, 116, 117, 115, 34, 58, 34, 102, 97, 105, 108, 101, 100, 34, 125, 125]⟩,
          0⟩] }

/-- The first call is rejected, and nothing is told. While the second one is on its way the watch is
stopped, and the end of the task is still told. -/
theorem tells_by_results_after_rejection :
    ∃ (notes later : List WatchNote) (w u : Watch MemoryVault),
      Turns (begin .video "t" 10 {} rejectedOnce) notes w ∧ Turns w later u ∧
        .stopped ∈ notes ∧ WatchNote.tales notes = [] ∧ .asked ∉ later ∧
        (WatchNote.tales later).length = 1 ∧ u.world.vault = w.world.vault := by
  have hwaited : Turns (begin .video "t" 10 {} rejectedOnce) _ _ :=
    (Turn.takeUp [] rfl rfl).turns.tail (.goOn rfl)
  have hasked := (hwaited.tail (.takeUp [] rfl rfl)).tail (.goOn rfl)
  have hrejected := ((hasked.tail (.goOn rfl)).tail (.goOn rfl)).tail (.goOn rfl)
  have hagain := (hrejected.tail (.takeUp [] rfl rfl)).tail (.goOn rfl)
  have hstopped := ((hagain.tail (.goOn rfl)).tail (.goOn rfl)).tail .stop
  obtain ⟨htold, -, -, hlater⟩ := tells_by_results _ _ _ _ _ hstopped
  refine ⟨_, _, _, _, hstopped, (Turn.goOn rfl).turns, List.mem_concat_self, htold, ?_, rfl, ?_⟩
  · exact ((hlater _ _ (Turn.goOn rfl).turns).2.1 List.mem_concat_self).1
  · exact (hlater _ _ (Turn.goOn rfl).turns).2.2 (changed_not_mem_own _ _ _)

end Watch

end TaskDesk
