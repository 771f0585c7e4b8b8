import TaskDesk.Proofs.Clock.Poller
import TaskDesk.Proofs.Session.Turn
import TaskDesk.Proofs.View.Polling

/-!
# The timer of a session

The state machine says by effects when to start and when to stop the poller, and a session carries
them out before it waits for anything. So whenever nothing is going on, the poller is active
exactly if the state has polling on, in every order of the activities, and also while a tick of a
run that was stopped is still in flight.

## Main definitions

- `Activity.Calm` — an activity that may wait, because polling is settled before
- `Session.Agrees` — the poller is active exactly if the state has polling on
- `Session.Handles` — work that brings the poller in line with the state
- `Session.InStep` — the invariant of a session

## Main results

- `Session.Sound.inStep_step` — every activity keeps the poller in step
- `Session.Turns.inStep` — so does every order of the activities
- `Session.Turn.notes` — what the marks of a turn say about the state
-/

namespace TaskDesk

/-! ## What may wait -/

/-- Work that may wait: its effects leave polling alone, and it is not what the last tick of a run
does about a rejected credential. -/
structure Work.Calm (w : Work) : Prop where
  effects : ∀ e ∈ w.effects, e.isPolling = false
  origin : ∀ run, w.origin ≠ .lastTick run

/-- A call after which only work is left that may wait. -/
def Purpose.Calm : Purpose → Prop
  | .effect _ rest => rest.Calm
  | .poll _ _ => True

/-- What the outcome of a flight is for. -/
def FlightNext.purpose {π : Type} : FlightNext π → π
  | .go _ step => step.flight.purpose
  | .landed purpose _ => purpose

/-- An activity that may wait. -/
def Activity.Calm : Activity → Prop
  | .work w => w.Calm
  | .call next => next.purpose.Calm
  | .wait _ | .tick _ => True

section Flight

variable {π κ : Type} [Vault κ]

@[simp] theorem World.purpose_launch (w : World κ) (p : RetryPolicy) (c : ApiCall) (purpose : π) :
    (w.launch p c purpose).purpose = purpose := by
  unfold World.launch
  split <;> rfl

@[simp] theorem FlightStep.purpose_run (w : World κ) (step : FlightStep π) :
    (step.run w).1.purpose = step.flight.purpose := by
  cases step with
  | send f => rfl
  | receive f outcome =>
    simp only [FlightStep.run]
    split <;> rfl

end Flight

/-- A rejected credential turns polling off, and what it leads to needs no call. -/
theorem ListState.Reaction.rejects {s t : ListState} {effects : List Effect}
    (h : s.Reaction .authInvalid t effects) (source : ListSource) :
    t.polling = false ∧ ∀ e ∈ effects, e.call? source = none := by
  cases h with
  | marked hm | turned hm | fetched hm => exact absurd trivial hm
  | rejected =>
    refine ⟨rfl, List.forall_mem_append.mpr ⟨fun e he => ?_, List.forall_mem_singleton.mpr rfl⟩⟩
    cases hp : s.polling with
    | true =>
      rw [hp] at he
      rw [List.mem_singleton.mp he]; rfl
    | false =>
      rw [hp] at he
      cases he

theorem ListState.Sound.rejects {s : ListState} (hs : s.Sound) (source : ListSource) :
    (s.update .authInvalid).1.polling = false ∧
      ∀ e ∈ (s.update .authInvalid).2, e.call? source = none := by
  cases hd : s.disposed with
  | true =>
    rw [update_of_disposed hd]
    refine ⟨?_, List.forall_mem_nil _⟩
    simpa [hd] using hs.disposed_eq
  | false => exact (reaction_update hd .authInvalid).rejects source

namespace Session

variable {κ : Type}

/-! ## The invariant -/

/-- What holds of a session at every step. -/
structure Sound (s : Session κ) : Prop where
  released_eq : s.released = false
  state : s.state.Sound
  poller : s.poller.Sound
  agenda : ∀ e ∈ s.agenda, e.job.Calm

/-- The poller is active exactly if the state has polling on. -/
def Agrees (s : Session κ) : Prop :=
  s.poller.isActive = s.state.polling

/-- Work that is about to take a rejected credential, or that has taken it and ends without a
wait. -/
def Ends (s : Session κ) (w : Work) : Prop :=
  (w.effects = [] ∧ w.queue = [.authInvalid]) ∨
    (w.queue = [] ∧ s.state.polling = false ∧ ∀ e ∈ w.effects, e.call? s.config.source = none)

/-- Work that brings the poller in line with the state, by its first effect or not at all. -/
structure Handles (s : Session κ) (w : Work) : Prop where
  tail : ∀ e ∈ w.effects.tail, e.isPolling = false
  agrees : w.effects.foldl Effect.pollingAfter s.poller.isActive = s.state.polling
  ends : ∀ run, w.origin = .lastTick run → s.Ends w

/-- What holds of the activity that is going on. -/
def Goes (s : Session κ) : Option Activity → Prop
  | some (.work w) => s.Handles w
  | some a => a.Calm ∧ s.Agrees
  | none => s.Agrees

/-- A session whose poller is in step with its state. -/
structure InStep (s : Session κ) : Prop where
  sound : s.Sound
  goes : s.Goes s.running

theorem inStep_opened (config : ViewConfig) (policy : RetryPolicy) (world : World κ) :
    (opened config policy world).InStep := by
  have hopened : config.initialState.Opened := .ofQuery _ _
  refine ⟨⟨rfl, hopened.sound, Poller.sound_nil, List.forall_mem_nil _⟩, ?_⟩
  exact hopened.polling_eq.symm

theorem goes_of_calm {s : Session κ} (hs : s.Agrees) {a : Activity} (ha : a.Calm) :
    s.Goes (some a) := by
  cases a with
  | work w =>
    refine ⟨fun e he => ha.effects e (List.mem_of_mem_tail he), ?_, fun run hrun => ?_⟩
    · rw [Effect.foldl_pollingAfter_of_not ha.effects]
      exact hs
    · exact absurd hrun (ha.origin run)
  | call | wait | tick => exact ⟨ha, hs⟩

/-- Only the state, the configuration and the poller matter for it. -/
theorem Goes.of_eq {s t : Session κ} {going : Option Activity} (h : s.Goes going)
    (hstate : t.state = s.state) (hconfig : t.config = s.config) (hpoller : t.poller = s.poller) :
    t.Goes going := by
  have hagrees : s.Agrees → t.Agrees := by
    unfold Agrees
    rw [hstate, hpoller]
    exact id
  match going, h with
  | none, h => exact hagrees h
  | some (.work w), h =>
    refine ⟨h.tail, ?_, fun run hrun => ?_⟩
    · rw [hstate, hpoller]
      exact h.agrees
    · unfold Ends
      rw [hstate, hconfig]
      exact h.ends run hrun
  | some (.call _), h | some (.wait _), h | some (.tick _), h => exact ⟨h.1, hagrees h.2⟩

theorem Sound.append {s : Session κ} (h : s.Sound) {e : Agenda.Entry Activity} (he : e.job.Calm) :
    ∀ f ∈ s.agenda ++ [e], f.job.Calm := by
  intro f hf
  rcases List.mem_append.mp hf with hf | hf
  · exact h.agenda f hf
  · rw [List.mem_singleton.mp hf]
    exact he

/-! ## Waits and ends -/

theorem settleRelease_eq {s : Session κ} (h : s.released = false) : s.settleRelease = s := by
  simp [settleRelease, isLetGo, h]

theorem settleTicks_eq {s : Session κ} (h : s.released = false) : s.settleTicks = s := by
  simp [settleTicks, isLetGo, h]

theorem Sound.inStep_goOn {s : Session κ} (h : s.Sound) (hs : s.Agrees) {a : Activity}
    (ha : a.Calm) (delay : Nat) (urgent : Bool) : (s.goOn delay urgent a).InStep := by
  unfold goOn
  split
  · refine ⟨{ h with }, goes_of_calm ?_ ha⟩
    exact hs
  · exact ⟨{ h with agenda := h.append ha }, hs⟩

theorem Sound.inStep_awaitTick {s : Session κ} (h : s.Sound) (hs : s.Agrees) (run : Nat) :
    (s.awaitTick run).InStep := by
  unfold awaitTick
  split
  · have hcalm : (Activity.tick run).Calm := trivial
    exact h.inStep_goOn hs hcalm _ _
  · exact ⟨{ h with }, hs⟩

/-- The end of a tick leaves the poller in line with the state, whichever run the tick belongs
to, as long as it stops nothing while polling is on. -/
theorem Sound.inStep_endTick {s : Session κ} (h : s.Sound) (hs : s.Agrees) (run : Nat)
    {control : PollControl} (hcontrol : control = .stop → s.state.polling = false) :
    (s.endTick run control).InStep := by
  -- The run may have been stopped since the tick began; what counts is that none is started.
  have hagrees : (s.poller.endTick run control).isActive = s.state.polling := by
    by_cases hc : control = .stop
    · have hoff : s.poller.isActive = false := hs.trans (hcontrol hc)
      rw [Poller.isActive_endTick_of_not hoff, hcontrol hc]
    · rw [Poller.isActive_endTick _ _ hc]
      exact hs
  rw [endTick, settleTicks_eq]
  · refine Sound.inStep_awaitTick ?_ ?_ run
    · exact { h with poller := h.poller.endTick run control }
    · exact hagrees
  · exact h.released_eq

theorem Sound.inStep_endWork {s : Session κ} (h : s.Sound) (hs : s.Agrees) {origin : Origin}
    (horigin : ∀ run, origin = .lastTick run → s.state.polling = false) :
    (s.endWork origin).InStep := by
  cases origin with
  | operator awaited =>
    rw [endWork, settleRelease_eq]
    · exact ⟨{ h with }, hs⟩
    · exact h.released_eq
  | tick run =>
    -- The tick stops its run only if polling is off by now.
    refine h.inStep_endTick hs run fun hstop => ?_
    cases hp : s.state.polling with
    | true => rw [hp] at hstop; cases hstop
    | false => rfl
  | lastTick run => exact h.inStep_endTick hs run fun _ => horigin run rfl

/-- A tick begins only while the state has polling on. -/
theorem Sound.polling_of_beginTick? {s : Session κ} (h : s.Sound) (hs : s.Agrees) {run : Nat}
    {poller : Poller} (hbegin : s.poller.beginTick? run s.world.now = some poller) :
    s.state.polling = true := by
  obtain ⟨-, hactive, -⟩ := h.poller.isActive_of_beginTick? hbegin
  rw [← hs]
  exact hactive

/-! ## Work -/

theorem apply_eq (s : Session κ) (m : Message) :
    ∃ world, s.apply m =
      ({ s with state := { (s.state.update m).1 with dirty := false }, world },
        (s.state.update m).2) :=
  ⟨_, rfl⟩

/-- After an effect that the poller has followed, the rest of the work is in line. -/
theorem Handles.next {s t : Session κ} {e : Effect} {rest : Work}
    (h : s.Handles { rest with effects := e :: rest.effects }) (hstate : t.state = s.state)
    (hconfig : t.config = s.config)
    (hpoller : t.poller.isActive = Effect.pollingAfter s.poller.isActive e) : t.Handles rest where
  tail f hf := h.tail f (List.mem_of_mem_tail hf)
  agrees := by
    have hagrees := h.agrees
    rw [List.foldl_cons] at hagrees
    rw [hpoller, hstate, hagrees]
  ends run hrun := by
    rcases h.ends run hrun with ⟨hnil, -⟩ | ⟨hqueue, hoff, hcalls⟩
    · cases hnil
    · refine .inr ⟨hqueue, ?_, fun f hf => ?_⟩
      · rw [hstate]
        exact hoff
      · rw [hconfig]
        exact hcalls f (List.mem_cons_of_mem _ hf)

/-- Work that makes a call may wait for it: polling is settled, and the last tick of a run makes no
call. -/
theorem Handles.calm {s : Session κ} {e : Effect} {rest : Work} {call : ApiCall}
    (h : s.Handles { rest with effects := e :: rest.effects })
    (hcall : e.call? s.config.source = some call) : rest.Calm ∧ s.Agrees := by
  have he : e.isPolling = false := by
    cases e with
    | startPolling | stopPolling => cases hcall
    | _ => rfl
  have hrest : ∀ f ∈ rest.effects, f.isPolling = false := h.tail
  have hagrees := h.agrees
  rw [List.foldl_cons, Effect.pollingAfter_of_not he, Effect.foldl_pollingAfter_of_not hrest]
    at hagrees
  refine ⟨⟨hrest, fun run hrun => ?_⟩, hagrees⟩
  rcases h.ends run hrun with ⟨hnil, -⟩ | ⟨-, -, hcalls⟩
  · cases hnil
  · rw [hcalls e (List.mem_cons_self ..)] at hcall
    cases hcall

theorem Sound.inStep_land {s : Session κ} (h : s.Sound) (hs : s.Agrees) {purpose : Purpose}
    (hpurpose : purpose.Calm) (outcome : Except ApiError ApiResponse) :
    (s.land outcome purpose).InStep := by
  have hwork {w : Work} (hw : w.Calm) : InStep { s with running := some (.work w) } := by
    refine ⟨{ h with }, goes_of_calm ?_ hw⟩
    exact hs
  cases purpose with
  | effect e rest => exact hwork ⟨hpurpose.effects, hpurpose.origin⟩
  | poll query run =>
    simp only [land]
    split
    · exact hwork ⟨List.forall_mem_nil _, nofun⟩
    · -- A rejected credential is dealt with before the run waits again.
      split
      · exact ⟨{ h with }, List.forall_mem_nil _, hs, fun _ _ => .inl ⟨rfl, rfl⟩⟩
      · exact h.inStep_endTick hs run nofun

section Calls

variable [Vault κ]

theorem Sound.inStep_perform {s : Session κ} (h : s.Sound) {e : Effect} {rest : Work}
    (hw : s.Handles { rest with effects := e :: rest.effects }) : (s.perform e rest).InStep := by
  unfold perform
  split
  · next call hcall =>
    obtain ⟨hcalm, hagrees⟩ := hw.calm hcall
    refine ⟨{ h with }, ?_, hagrees⟩
    change Purpose.Calm (s.world.launch s.policy call (.effect e rest)).purpose
    rw [World.purpose_launch]
    exact hcalm
  · next hnone =>
    cases e with
    | fetchPage | batchDelete | clearTasks => cases hnone
    | startPolling =>
      -- The new run waits for its first tick.
      have hcalm (run : Nat) : (Activity.wait run).Calm := trivial
      refine ⟨{ h with poller := h.poller.start _ _, agenda := h.append (hcalm _) }, ?_⟩
      exact hw.next rfl rfl (Poller.isActive_start _ _ _)
    | stopPolling =>
      refine ⟨{ h with poller := h.poller.stop }, ?_⟩
      exact hw.next rfl rfl (Poller.isActive_stop _)
    | notify =>
      refine ⟨{ h with }, ?_⟩
      exact hw.next rfl rfl rfl

theorem Sound.inStep_proceed {s : Session κ} (h : s.Sound) {w : Work} (hw : s.Handles w) :
    (s.proceed w).InStep := by
  obtain ⟨effects, queue, origin⟩ := w
  cases effects with
  | cons e effects => exact h.inStep_perform hw
  | nil =>
    have hagrees : s.Agrees := hw.agrees
    cases queue with
    | nil =>
      refine h.inStep_endWork hagrees fun run hrun => ?_
      rcases hw.ends run hrun with ⟨-, hqueue⟩ | ⟨-, hoff, -⟩
      · cases hqueue
      · exact hoff
    | cons m queue =>
      obtain ⟨world, happly⟩ := s.apply_eq m
      have hsound := h.state.update m
      simp only [proceed, happly]
      refine ⟨{ h with state := ⟨hsound.authInvalid_eq, hsound.disposed_eq⟩ }, ?_, ?_, ?_⟩
      · exact fun e he => ListState.isPolling_of_mem_tail_update he
      · change (s.state.update m).2.foldl Effect.pollingAfter s.poller.isActive =
          (s.state.update m).1.polling
        rw [hagrees]
        exact s.state.foldl_pollingAfter_update m
      · intro run hrun
        -- A last tick has one message, and after it polling is off.
        rcases hw.ends run hrun with ⟨-, hqueue⟩ | ⟨hqueue, -⟩
        · obtain ⟨rfl, rfl⟩ := List.cons.inj hqueue
          obtain ⟨hoff, hcalls⟩ := h.state.rejects s.config.source
          exact .inr ⟨rfl, hoff, hcalls⟩
        · cases hqueue

theorem Sound.inStep_proceedCall {s : Session κ} (h : s.Sound) (hs : s.Agrees)
    {next : FlightNext Purpose} (hnext : next.purpose.Calm) : (s.proceedCall next).InStep := by
  cases next with
  | landed purpose outcome => exact h.inStep_land hs hnext outcome
  | go delay step =>
    simp only [proceedCall]
    split
    · refine ⟨{ h with }, ?_, hs⟩
      change Purpose.Calm (step.run s.world).1.purpose
      rw [FlightStep.purpose_run]
      exact hnext
    · have hcalm : (Activity.call (.go 0 step)).Calm := hnext
      exact h.inStep_goOn hs hcalm _ _

theorem Sound.inStep_beginTick {s : Session κ} (h : s.Sound) (hs : s.Agrees) (run : Nat) :
    (s.beginTick run).InStep := by
  unfold beginTick
  split
  · exact ⟨{ h with }, hs⟩
  · next poller hbegin =>
    obtain ⟨hpoller, -, hactive⟩ := h.poller.isActive_of_beginTick? hbegin
    refine ⟨{ h with poller := hpoller }, ?_, ?_⟩
    · change Purpose.Calm (s.world.launch s.policy _ (.poll s.state.query run)).purpose
      rw [World.purpose_launch]
      trivial
    · exact hactive.trans (h.polling_of_beginTick? hs hbegin).symm

/-- Every activity keeps the poller in step. -/
theorem Sound.inStep_step {s : Session κ} (h : s.Sound) {a : Activity} (ha : s.Goes (some a)) :
    (s.step a).InStep := by
  cases a with
  | work w => exact h.inStep_proceed ha
  | call next => exact h.inStep_proceedCall ha.2 ha.1
  | wait run => exact h.inStep_awaitTick ha.2 run
  | tick run => exact h.inStep_beginTick ha.2 run

end Calls

/-! ## What changes the state -/

/-- Nothing changes but the activities, the poller and the counts. -/
structure Keeps (s t : Session κ) : Prop where
  config_eq : t.config = s.config
  state_eq : t.state = s.state
  world_eq : t.world = s.world

theorem Keeps.trans {s t u : Session κ} (h : s.Keeps t) (hu : t.Keeps u) : s.Keeps u where
  config_eq := hu.config_eq.trans h.config_eq
  state_eq := hu.state_eq.trans h.state_eq
  world_eq := hu.world_eq.trans h.world_eq

theorem keeps_goOn (s : Session κ) (delay : Nat) (urgent : Bool) (a : Activity) :
    s.Keeps (s.goOn delay urgent a) := by
  unfold goOn
  split <;> exact ⟨rfl, rfl, rfl⟩

theorem keeps_awaitTick (s : Session κ) (run : Nat) : s.Keeps (s.awaitTick run) := by
  unfold awaitTick
  split
  · exact keeps_goOn _ _ _ _
  · exact ⟨rfl, rfl, rfl⟩

theorem keeps_endTick (s : Session κ) (run : Nat) (control : PollControl) :
    s.Keeps (s.endTick run control) := by
  refine Keeps.trans ?_ (keeps_awaitTick _ run)
  unfold settleTicks
  split <;> exact ⟨rfl, rfl, rfl⟩

theorem keeps_endWork (s : Session κ) (origin : Origin) : s.Keeps (s.endWork origin) := by
  cases origin with
  | operator awaited =>
    simp only [endWork, settleRelease]
    split <;> exact ⟨rfl, rfl, rfl⟩
  | tick run | lastTick run => exact keeps_endTick _ _ _

theorem keeps_land (s : Session κ) (outcome : Except ApiError ApiResponse) (purpose : Purpose) :
    s.Keeps (s.land outcome purpose) := by
  cases purpose with
  | effect e rest => exact ⟨rfl, rfl, rfl⟩
  | poll query run =>
    simp only [land]
    split
    · exact ⟨rfl, rfl, rfl⟩
    · split
      · exact ⟨rfl, rfl, rfl⟩
      · exact keeps_endTick _ _ _

variable [Vault κ]

theorem state_perform (s : Session κ) (e : Effect) (rest : Work) :
    (s.perform e rest).state = s.state := by
  unfold perform
  split
  · rfl
  · cases e <;> rfl

theorem state_proceedCall (s : Session κ) (next : FlightNext Purpose) :
    (s.proceedCall next).state = s.state := by
  cases next with
  | landed purpose outcome => exact (keeps_land _ _ _).state_eq
  | go delay step =>
    simp only [proceedCall]
    split
    · rfl
    · exact (keeps_goOn _ _ _ _).state_eq

theorem state_beginTick (s : Session κ) (run : Nat) : (s.beginTick run).state = s.state := by
  unfold beginTick
  split <;> rfl

/-- The state changes only when the state machine takes a message, which is noted. -/
theorem state_step (s : Session κ) (a : Activity) :
    (∃ m, s.marks a = [.took s.state m] ∧
        (s.step a).state = { (s.state.update m).1 with dirty := false }) ∨
      (s.step a).state = s.state ∧
        (s.marks a = [] ∨
          ∃ run poller, a = .tick run ∧ s.marks a = [.ticked run] ∧
            s.poller.beginTick? run s.world.now = some poller) := by
  cases a with
  | work w =>
    obtain ⟨effects, queue, origin⟩ := w
    cases effects with
    | cons e effects => exact .inr ⟨state_perform _ _ _, .inl rfl⟩
    | nil =>
      cases queue with
      | nil => exact .inr ⟨(keeps_endWork _ _).state_eq, .inl rfl⟩
      | cons m queue => exact .inl ⟨m, rfl, rfl⟩
  | call next => exact .inr ⟨state_proceedCall _ _, .inl rfl⟩
  | wait run => exact .inr ⟨(keeps_awaitTick _ _).state_eq, .inl rfl⟩
  | tick run =>
    refine .inr ⟨state_beginTick _ _, ?_⟩
    cases hbegin : s.poller.beginTick? run s.world.now with
    | none => left; simp [marks, hbegin]
    | some poller => exact .inr ⟨run, poller, rfl, by simp [marks, hbegin], hbegin⟩

/-! ## Turns -/

/-- Whoever goes on, the poller stays in step. -/
theorem Turn.inStep {s t : Session κ} {new : List Mark} (h : Turn s new t) (hs : s.InStep) :
    t.InStep := by
  have hsound := hs.sound
  have hgoes := hs.goes
  cases h with
  | @goOn a ha =>
    rw [ha] at hgoes
    have hidle : Sound { s with running := none } := { hsound with }
    exact hidle.inStep_step (hgoes.of_eq rfl rfl rfl)
  | @wait a ha hmay due urgent =>
    rw [ha] at hgoes
    have hcalm : a.Calm ∧ s.Agrees := by
      cases a with
      | work => cases hmay
      | call | wait | tick => exact hgoes
    exact ⟨{ hsound with agenda := hsound.append hcalm.1 }, hcalm.2⟩
  | @takeUp before e after hnone hagenda =>
    rw [hnone] at hgoes
    have hmem : ∀ f ∈ e :: (before ++ after), f.job.Calm := by
      intro f hf
      refine hsound.agenda f ?_
      rw [hagenda]
      simpa [or_left_comm] using hf
    obtain ⟨he, hrest⟩ := List.forall_mem_cons.mp hmem
    refine ⟨{ hsound with agenda := hrest }, goes_of_calm ?_ he⟩
    exact hgoes
  | dispatch hnone m =>
    rw [hnone] at hgoes
    exact ⟨{ hsound with }, List.forall_mem_nil _, hgoes, nofun⟩
  | spawn hnone m due =>
    rw [hnone] at hgoes
    have hcalm : (Activity.work { queue := [m], origin := .operator false }).Calm :=
      ⟨List.forall_mem_nil _, nofun⟩
    exact ⟨{ hsound with agenda := hsound.append hcalm }, by rw [hnone]; exact hgoes⟩
  | dispose hnone =>
    rw [hnone] at hgoes
    obtain ⟨world, happly⟩ := s.apply_eq .disposed
    have hstate := hsound.state.update .disposed
    have hdispose : s.dispose = (s.apply .disposed).1.stopPolling := rfl
    rw [hdispose, happly]
    refine ⟨{ hsound with
      state := ⟨hstate.authInvalid_eq, hstate.disposed_eq⟩, poller := hsound.poller.stop }, ?_⟩
    change Goes _ s.running
    rw [hnone]
    exact (Poller.isActive_stop _).trans hsound.state.polling_update_disposed.symm
  | outside world => exact ⟨{ hsound with }, hgoes.of_eq rfl rfl rfl⟩

theorem Turns.inStep {s t : Session κ} {marks : List Mark} (h : Turns s marks t)
    (hs : s.InStep) : t.InStep := by
  induction h with
  | refl => exact hs
  | tail _ hturn ih => exact hturn.inStep ih

/-- A turn takes a message, begins a tick while polling is on, or is not noted; only the first
changes the state. -/
theorem Turn.notes {s t : Session κ} {new : List Mark} (h : Turn s new t) (hs : s.InStep) :
    (∃ m, new = [.took s.state m] ∧ t.state.polling = (s.state.update m).1.polling) ∨
      t.state = s.state ∧ (new = [] ∨ ∃ run, new = [.ticked run] ∧ s.state.polling = true) := by
  cases h with
  | @goOn a ha =>
    rcases state_step { s with running := none } a with
      ⟨m, hmarks, hstate⟩ | ⟨hstate, hnone | ⟨run, poller, rfl, hmarks, hbegin⟩⟩
    · exact .inl ⟨m, hmarks, by rw [hstate]⟩
    · exact .inr ⟨hstate, .inl hnone⟩
    · have hgoes := hs.goes
      rw [ha] at hgoes
      exact .inr ⟨hstate, .inr ⟨run, hmarks, hs.sound.polling_of_beginTick? hgoes.2 hbegin⟩⟩
  | wait => exact .inr ⟨rfl, .inl rfl⟩
  | takeUp => exact .inr ⟨rfl, .inl rfl⟩
  | dispatch => exact .inr ⟨rfl, .inl rfl⟩
  | spawn => exact .inr ⟨rfl, .inl rfl⟩
  | dispose => exact .inl ⟨_, rfl, rfl⟩
  | outside => exact .inr ⟨rfl, .inl rfl⟩

end Session

end TaskDesk
