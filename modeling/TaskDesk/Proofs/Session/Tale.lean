import TaskDesk.Proofs.Session.Course
import TaskDesk.Proofs.Session.Exchange

/-!
# What an activity has still to do

An activity takes a message, carries out the effects of it, and waits for the call among them, whose
outcome is the next message. A tick begins with a call of its own. Whatever else goes on in the
session, what will be noted about the activity depends on nothing but that, on the outcomes of its
calls and on the states in which its messages are taken.

## Main definitions

- `Duty` — what an activity has still to do
- `Tale` — what can be noted while it does that
- `Session.Owes` — an activity that has that to do
- `Session.Leaves` — what is left to do at a point of a course

## Main results

- `Tale.exists_whole` — what has been noted so far is the beginning of something whole
- `Session.Owes.leaves` — what a step leaves to do
- `Session.Course.exists_tale` — what is noted in a course
-/

namespace TaskDesk

/-- What an activity has still to do. -/
inductive Duty where
  /-- The state machine is to take a message. -/
  | takes (message : Message)
  /-- Effects are to be carried out, while the list is in that state. -/
  | acts (state : ListState) (effects : List Effect)
  /-- The call of an effect is under way. -/
  | calls (effect : Effect)
  /-- A tick is to begin. -/
  | ticks
  /-- The fetch of a tick is under way. -/
  | polls (query : ListQuery)

/-- What can be noted while an activity does its duty, up to some point or to the end. -/
inductive Tale (source : ListSource) : Duty → Bool → List Deed → Prop
  | underWay (d : Duty) : Tale source d false []
  /-- The message is taken by a view that is open. -/
  | takes {m : Message} {s : ListState} {ended : Bool} {deeds : List Deed}
      (hopen : s.disposed = false)
      (h : Tale source (.acts (s.after m) (s.update m).2) ended deeds) :
      Tale source (.takes m) ended deeds
  /-- Nothing is left to do. -/
  | done (s : ListState) : Tale source (.acts s []) true []
  | tells {s : ListState} {level : NoticeLevel} {text : String} {effects : List Effect}
      {ended : Bool} {deeds : List Deed} (h : Tale source (.acts s effects) ended deeds) :
      Tale source (.acts s (.notify level text :: effects)) ended (.told level text :: deeds)
  /-- Polling is turned on or off. -/
  | turns {s : ListState} {e : Effect} {effects : List Effect} {ended : Bool} {deeds : List Deed}
      (he : e.isPolling = true) (h : Tale source (.acts s effects) ended deeds) :
      Tale source (.acts s (e :: effects)) ended deeds
  | makes {s : ListState} {e : Effect} {ended : Bool} {deeds : List Deed} (he : e.isCall = true)
      (h : Tale source (.calls e) ended deeds) :
      Tale source (.acts s [e]) ended (.made s e :: deeds)
  /-- The outcome of a call is the next message. -/
  | lands {e : Effect} (outcome : Except ApiError ApiResponse) {ended : Bool} {deeds : List Deed}
      (h : Tale source (.takes (e.reply source outcome)) ended deeds) :
      Tale source (.calls e) ended (.landed e outcome :: deeds)
  /-- The run of a tick was stopped before. -/
  | stopped : Tale source .ticks true []
  | asks {query : ListQuery} {ended : Bool} {deeds : List Deed}
      (h : Tale source (.polls query) ended deeds) : Tale source .ticks ended deeds
  /-- The fetch of a tick fails, and the view is told nothing. -/
  | misses {query : ListQuery} {outcome : Except ApiError ApiResponse} {err : ApiError}
      (h : outcome.bind (source.snapshot query) = .error err) (hauth : err.isAuthInvalid = false) :
      Tale source (.polls query) true [.polled query outcome]
  /-- It learns of a rejected credential. -/
  | rejects {query : ListQuery} {outcome : Except ApiError ApiResponse} {err : ApiError}
      {ended : Bool} {deeds : List Deed} (h : outcome.bind (source.snapshot query) = .error err)
      (hauth : err.isAuthInvalid = true) (hrest : Tale source (.takes .authInvalid) ended deeds) :
      Tale source (.polls query) ended (.polled query outcome :: deeds)
  /-- It brings a page. -/
  | brings {query : ListQuery} {outcome : Except ApiError ApiResponse} {snapshot : Snapshot}
      {ended : Bool} {deeds : List Deed} (h : outcome.bind (source.snapshot query) = .ok snapshot)
      (hrest : Tale source (.takes (.pageLoaded query snapshot)) ended deeds) :
      Tale source (.polls query) ended (.polled query outcome :: deeds)

/-! ## Whole tales -/

/-- A duty that can be done: calls come last. -/
def Duty.IsProper : Duty → Prop
  | .acts _ effects => ∀ e ∈ effects.dropLast, e.isCall = false
  | .calls e => e.isCall = true
  | .takes _ | .ticks | .polls _ => True

theorem Duty.isProper_acts_update (s : ListState) (m : Message) :
    (Duty.acts (s.after m) (s.update m).2).IsProper :=
  fun _ he => ListState.isCall_of_mem_dropLast_update he

/-- Behind a call there is nothing, and what is behind another effect can be done as well. -/
theorem Duty.IsProper.of_cons {s : ListState} {e : Effect} {effects : List Effect}
    (h : (Duty.acts s (e :: effects)).IsProper) :
    (e.isCall = true → effects = []) ∧ (Duty.acts s effects).IsProper :=
  @Activity.CallsLast.of_cons e { effects, origin := .operator true } h

/-- The failure of an attempt that nobody answered. -/
private def unanswered : ApiError :=
  ⟨.network, ""⟩

namespace Tale

section Proper

variable (source : ListSource)

/-- A call can fail, and the operator is told. -/
theorem exists_calls {e : Effect} (he : e.isCall = true) :
    ∃ deeds, Tale source (.calls e) true deeds := by
  have hfailure (reason : String) {m : Message} (hm : e.reply source (.error unanswered) = m)
      (heffects : (ListState.initial.update m).2 = [.failure reason]) :
      ∃ deeds, Tale source (.calls e) true deeds := by
    have htale : Tale source (.takes m) true [.told .error reason] := by
      refine .takes (s := .initial) rfl ?_
      rw [heffects]
      exact .tells (.done _)
    rw [← hm] at htale
    exact ⟨_, htale.lands _⟩
  cases e with
  | fetchPage | batchDelete | clearTasks => exact hfailure _ rfl rfl
  | startPolling | stopPolling | notify => cases he

theorem exists_acts {s : ListState} {effects : List Effect}
    (h : (Duty.acts s effects).IsProper) : ∃ deeds, Tale source (.acts s effects) true deeds := by
  induction effects with
  | nil => exact ⟨[], .done s⟩
  | cons e effects ih =>
    obtain ⟨hlast, hrest⟩ := h.of_cons
    obtain ⟨deeds, htale⟩ := ih hrest
    have hcall (he : e.isCall = true) :
        ∃ deeds, Tale source (.acts s (e :: effects)) true deeds := by
      obtain rfl := hlast he
      obtain ⟨deeds, hcalls⟩ := exists_calls source he
      exact ⟨_, hcalls.makes he⟩
    cases e with
    | notify => exact ⟨_, htale.tells⟩
    | startPolling | stopPolling => exact ⟨_, htale.turns rfl⟩
    | fetchPage | batchDelete | clearTasks => exact hcall rfl

theorem exists_takes (m : Message) : ∃ deeds, Tale source (.takes m) true deeds := by
  obtain ⟨deeds, h⟩ := exists_acts source (Duty.isProper_acts_update .initial m)
  exact ⟨deeds, .takes rfl h⟩

theorem exists_of_isProper {d : Duty} (h : d.IsProper) : ∃ deeds, Tale source d true deeds := by
  cases d with
  | takes m => exact exists_takes source m
  | acts s effects => exact exists_acts source h
  | calls e => exact exists_calls source h
  | ticks => exact ⟨[], .stopped⟩
  | polls query =>
    have hmissed : Tale source (.polls query) true [.polled query (.error unanswered)] :=
      .misses rfl rfl
    exact ⟨_, hmissed⟩

end Proper

variable {source : ListSource}

/-- What has been noted so far is the beginning of something whole. -/
theorem exists_whole {d : Duty} {ended : Bool} {deeds : List Deed} (h : Tale source d ended deeds)
    (hd : d.IsProper) :
    ∃ rest, Tale source d true (deeds ++ rest) ∧ (ended = true → rest = []) := by
  induction h with
  | underWay d =>
    obtain ⟨rest, hrest⟩ := exists_of_isProper source hd
    exact ⟨rest, hrest, nofun⟩
  | takes hopen _ ih =>
    obtain ⟨rest, hrest, hended⟩ := ih (Duty.isProper_acts_update _ _)
    exact ⟨rest, .takes hopen hrest, hended⟩
  | done s => exact ⟨[], .done s, fun _ => rfl⟩
  | tells _ ih =>
    obtain ⟨rest, hrest, hended⟩ := ih hd.of_cons.2
    exact ⟨rest, hrest.tells, hended⟩
  | turns he _ ih =>
    obtain ⟨rest, hrest, hended⟩ := ih hd.of_cons.2
    exact ⟨rest, hrest.turns he, hended⟩
  | makes he _ ih =>
    obtain ⟨rest, hrest, hended⟩ := ih he
    exact ⟨rest, hrest.makes he, hended⟩
  | lands outcome _ ih =>
    obtain ⟨rest, hrest, hended⟩ := ih trivial
    exact ⟨rest, hrest.lands outcome, hended⟩
  | stopped => exact ⟨[], .stopped, fun _ => rfl⟩
  | asks _ ih =>
    obtain ⟨rest, hrest, hended⟩ := ih trivial
    exact ⟨rest, hrest.asks, hended⟩
  | misses h hauth => exact ⟨[], .misses h hauth, fun _ => rfl⟩
  | rejects h hauth _ ih =>
    obtain ⟨rest, hrest, hended⟩ := ih trivial
    exact ⟨rest, hrest.rejects h hauth, hended⟩
  | brings h _ ih =>
    obtain ⟨rest, hrest, hended⟩ := ih trivial
    exact ⟨rest, hrest.brings h, hended⟩

end Tale

namespace Session

variable {κ : Type}

/-! ## Activities and their duties -/

/-- The activity has that to do, and nothing else. -/
inductive Owes (t : Session κ) : Activity → Duty → Prop
  | takes {m : Message} {origin : Origin} : Owes t (.work { queue := [m], origin }) (.takes m)
  | acts {effects : List Effect} {origin : Origin}
      (h : (Duty.acts t.state effects).IsProper) :
      Owes t (.work { effects, origin }) (.acts t.state effects)
  | calls {e : Effect} {next : FlightNext Purpose} {origin : Origin} (he : e.isCall = true)
      (hnext : next.purpose = .effect e { origin }) : Owes t (.call next) (.calls e)
  | ticks {run : Nat} : Owes t (.tick run) .ticks
  | polls {query : ListQuery} {run : Nat} {next : FlightNext Purpose}
      (hnext : next.purpose = .poll query run) : Owes t (.call next) (.polls query)

theorem Owes.of_state_eq {t u : Session κ} {a : Activity} {d : Duty} (h : t.Owes a d)
    (hstate : u.state = t.state) : u.Owes a d := by
  cases h with
  | takes => exact .takes
  | acts h =>
    rw [← hstate] at h ⊢
    exact .acts h
  | calls he hnext => exact .calls he hnext
  | ticks => exact .ticks
  | polls hnext => exact .polls hnext

/-- What an activity in a wait has to do does not depend on the state of the list. -/
theorem Owes.of_mayWait {t u : Session κ} {a : Activity} {d : Duty} (h : t.Owes a d)
    (hmay : a.MayWait) : u.Owes a d := by
  cases h with
  | takes | acts => cases hmay
  | calls he hnext => exact .calls he hnext
  | ticks => exact .ticks
  | polls hnext => exact .polls hnext

theorem Owes.isProper {t : Session κ} {a : Activity} {d : Duty} (h : t.Owes a d) :
    d.IsProper := by
  cases h with
  | acts h => exact h
  | calls he => exact he
  | takes | ticks | polls => trivial

/-- With these deeds an activity has come to that stage. Whatever is noted about the rest of its
duty, together with them it is a tale of the duty that it had at first. -/
inductive Leaves (source : ListSource) (d : Duty) (deeds : List Deed) : Stage → Session κ → Prop
  | goes {u : Session κ} {a : Activity} {left : Duty} (ha : u.running = some a)
      (howes : u.Owes a left)
      (htale : ∀ ended rest, Tale source left ended rest → Tale source d ended (deeds ++ rest)) :
      Leaves source d deeds .goes u
  | waits {u : Session κ} {a : Activity} {left : Duty} (hmay : a.MayWait) (howes : u.Owes a left)
      (htale : ∀ ended rest, Tale source left ended rest → Tale source d ended (deeds ++ rest)) :
      Leaves source d deeds (.waits a) u
  | ended {u : Session κ} (h : Tale source d true deeds) : Leaves source d deeds .ended u

theorem Leaves.trans {source : ListSource} {d left : Duty} {deeds new : List Deed} {stage : Stage}
    {u : Session κ} (h : Leaves source left new stage u)
    (htale : ∀ ended rest, Tale source left ended rest → Tale source d ended (deeds ++ rest)) :
    Leaves source d (deeds ++ new) stage u := by
  have hjoin {more : Duty}
      (hmore : ∀ ended rest, Tale source more ended rest → Tale source left ended (new ++ rest))
      (ended : Bool) (rest : List Deed) (hrest : Tale source more ended rest) :
      Tale source d ended (deeds ++ new ++ rest) := by
    rw [List.append_assoc]
    exact htale _ _ (hmore _ _ hrest)
  cases h with
  | goes ha howes hmore => exact .goes ha howes (hjoin hmore)
  | waits hmay howes hmore => exact .waits hmay howes (hjoin hmore)
  | ended h => exact .ended (htale _ _ h)

/-- What has been noted at that stage. -/
theorem Leaves.exists_tale {source : ListSource} {d : Duty} {deeds : List Deed} {stage : Stage}
    {u : Session κ} (h : Leaves source d deeds stage u) :
    ∃ ended, Tale source d ended deeds ∧ (stage = .ended → ended = true) := by
  have hopen {left : Duty}
      (htale : ∀ ended rest, Tale source left ended rest → Tale source d ended (deeds ++ rest)) :
      Tale source d false deeds := by
    have h := htale false [] (.underWay left)
    rwa [List.append_nil] at h
  cases h with
  | goes _ _ htale => exact ⟨false, hopen htale, nofun⟩
  | waits _ _ htale => exact ⟨false, hopen htale, nofun⟩
  | ended h => exact ⟨true, h, fun _ => rfl⟩

/-! ## One step -/

/-- The wait for the next tick of a run is all that it leaves. -/
theorem exists_ticks_awaitTick (u : Session κ) (run : Nat) :
    ∃ later, (u.awaitTick run).agenda = u.agenda ++ later ∧
      (∀ b ∈ (u.awaitTick run).running, b.isTick = true) ∧ ∀ e ∈ later, e.job.isTick = true := by
  unfold awaitTick
  split
  · unfold goOn
    split
    · exact ⟨[], (List.append_nil _).symm, Activity.forall_mem_some rfl, List.forall_mem_nil _⟩
    · exact ⟨[_], rfl, Activity.forall_mem_none, List.forall_mem_singleton.mpr rfl⟩
  · exact ⟨[], (List.append_nil _).symm, Activity.forall_mem_none, List.forall_mem_nil _⟩

section Steps

variable [Vault κ] {t : Session κ}

/-- The activity goes on at once, and not as a tick. -/
theorem leaves_of_running {source : ListSource} {a b : Activity} {d left : Duty}
    (hrunning : (t.stepOf a).running = some b) (hb : b.isTick = false)
    (howes : (t.stepOf a).Owes b left)
    (htale : ∀ ended rest, Tale source left ended rest → Tale source d ended (t.deeds a ++ rest)) :
    Leaves source d (t.deeds a) (t.stageAfter a) (t.stepOf a) := by
  have hstage : t.stageAfter a = .goes := by
    unfold stageAfter
    rw [hrunning]
    simp only
    rw [if_neg (by simp [hb])]
  rw [hstage]
  exact .goes hrunning howes htale

/-- An activity that only waits for the next tick of a run, or for nothing, is over. -/
theorem stageAfter_eq_ended {a : Activity} {later : List (Agenda.Entry Activity)}
    (hagenda : (t.stepOf a).agenda = t.agenda ++ later)
    (hrunning : ∀ b ∈ (t.stepOf a).running, b.isTick = true)
    (hlater : ∀ e ∈ later, e.job.isTick = true) : t.stageAfter a = .ended := by
  unfold stageAfter
  rw [hagenda, List.drop_left]
  split
  · next b hb => rw [if_pos (hrunning b hb)]
  · split
    · next e rest => rw [if_pos (hlater e List.mem_cons_self)]
    · rfl

theorem stageAfter_of_endTick {u : Session κ} {a : Activity} (hagenda : u.agenda = t.agenda)
    {run : Nat} {control : PollControl} (h : t.stepOf a = u.endTick run control) :
    t.stageAfter a = .ended := by
  let s : Session κ :=
    { u with poller := u.poller.endTick run control, running := none, ticks := u.ticks - 1 }
  have hsettled : s.settleTicks.agenda = t.agenda := by
    unfold settleTicks
    split <;> exact hagenda
  obtain ⟨later, hlater, hrunning, hticks⟩ := s.settleTicks.exists_ticks_awaitTick run
  have hstep : t.stepOf a = s.settleTicks.awaitTick run := h
  rw [← hstep, hsettled] at hlater
  rw [← hstep] at hrunning
  exact stageAfter_eq_ended hlater hrunning hticks

/-- An activity with nothing left to deal with is over. -/
theorem stageAfter_of_done (origin : Origin) :
    t.stageAfter (.work { origin }) = .ended := by
  cases origin with
  | operator awaited =>
    have hreleased : (t.stepOf (.work { origin := .operator awaited })).running = none ∧
        (t.stepOf (.work { origin := .operator awaited })).agenda = t.agenda := by
      simp only [stepOf, step, proceed, endWork, settleRelease]
      split <;> exact ⟨rfl, rfl⟩
    have hagenda : (t.stepOf (.work { origin := .operator awaited })).agenda = t.agenda ++ [] := by
      rw [hreleased.2, List.append_nil]
    refine stageAfter_eq_ended hagenda ?_ (List.forall_mem_nil _)
    rw [hreleased.1]
    exact Activity.forall_mem_none
  | tick run | lastTick run =>
    exact stageAfter_of_endTick (u := { t with running := none }) rfl rfl

theorem leaves_takes (hopen : t.state.disposed = false) (m : Message) (origin : Origin) :
    Leaves t.config.source (.takes m) (t.deeds (.work { queue := [m], origin }))
      (t.stageAfter (.work { queue := [m], origin }))
      (t.stepOf (.work { queue := [m], origin })) := by
  have howes : (t.stepOf (.work { queue := [m], origin })).Owes
      (.work { effects := (t.state.update m).2, origin })
      (.acts (t.state.after m) (t.state.update m).2) :=
    .acts (Duty.isProper_acts_update t.state m)
  exact leaves_of_running rfl rfl howes fun _ _ h => h.takes hopen

/-- A call takes off, and nothing is left behind it. -/
theorem leaves_acts_call {e : Effect} (he : e.isCall = true) {origin : Origin} {call : ApiCall}
    (hcall : e.call? t.config.source = some call)
    (hdeeds : t.deeds (.work { effects := [e], origin }) = [.made t.state e]) :
    Leaves t.config.source (.acts t.state [e]) (t.deeds (.work { effects := [e], origin }))
      (t.stageAfter (.work { effects := [e], origin }))
      (t.stepOf (.work { effects := [e], origin })) := by
  have hrunning : (t.stepOf (.work { effects := [e], origin })).running =
      some (.call (t.world.launch t.policy call (.effect e { origin }))) := by
    simp [stepOf, step, proceed, perform, hcall, continueCall]
  refine leaves_of_running hrunning rfl (.calls he (World.purpose_launch _ _ _ _)) ?_
  rw [hdeeds]
  exact fun _ _ h => h.makes he

theorem leaves_acts {effects : List Effect} {origin : Origin}
    (h : (Duty.acts t.state effects).IsProper) :
    Leaves t.config.source (.acts t.state effects) (t.deeds (.work { effects, origin }))
      (t.stageAfter (.work { effects, origin })) (t.stepOf (.work { effects, origin })) := by
  cases effects with
  | nil =>
    rw [stageAfter_of_done]
    exact .ended (.done t.state)
  | cons e effects =>
    obtain ⟨hlast, hrest⟩ := h.of_cons
    have howes : t.Owes (.work { effects, origin }) (.acts t.state effects) := .acts hrest
    cases e with
    | fetchPage | batchDelete | clearTasks =>
      obtain rfl := hlast rfl
      exact leaves_acts_call rfl rfl rfl
    | notify =>
      exact leaves_of_running rfl rfl (howes.of_state_eq rfl) fun _ _ h => h.tells
    | startPolling | stopPolling =>
      exact leaves_of_running rfl rfl (howes.of_state_eq rfl) fun _ _ h => h.turns rfl

/-- A flight goes on, at once or after a wait. -/
theorem leaves_flight {source : ListSource} {d : Duty} {delay : Nat} {step : FlightStep Purpose}
    (howes : ∀ (u : Session κ) (next : FlightNext Purpose),
      next.purpose = step.flight.purpose → u.Owes (.call next) d) :
    Leaves source d (t.deeds (.call (.go delay step))) (t.stageAfter (.call (.go delay step)))
      (t.stepOf (.call (.go delay step))) := by
  cases delay with
  | zero =>
    exact leaves_of_running rfl rfl (howes _ _ (FlightStep.purpose_run _ _)) fun _ _ h => h
  | succ delay =>
    have hstage : t.stageAfter (.call (.go (delay + 1) step)) = .waits (.call (.go 0 step)) := by
      simp [stageAfter, stepOf, Session.step, proceedCall, goOn, Activity.isTick]
    rw [hstage]
    exact .waits trivial (howes _ _ rfl) fun _ _ h => h

theorem leaves_calls {e : Effect} (he : e.isCall = true) {next : FlightNext Purpose}
    {origin : Origin} (hnext : next.purpose = .effect e { origin }) :
    Leaves t.config.source (.calls e) (t.deeds (.call next)) (t.stageAfter (.call next))
      (t.stepOf (.call next)) := by
  cases next with
  | go delay step => exact leaves_flight fun _ _ h => .calls he (h.trans hnext)
  | landed purpose outcome =>
    obtain rfl : purpose = .effect e { origin } := hnext
    have howes : (t.stepOf (.call (.landed (.effect e { origin }) outcome))).Owes
        (.work { queue := [e.reply t.config.source outcome], origin })
        (.takes (e.reply t.config.source outcome)) :=
      .takes
    exact leaves_of_running rfl rfl howes fun _ _ h => h.lands outcome

/-- The fetch of a tick lands, and the tick ends or goes on with a message. -/
theorem leaves_landed_poll {query : ListQuery} {run : Nat}
    (outcome : Except ApiError ApiResponse) :
    Leaves t.config.source (.polls query) (t.deeds (.call (.landed (.poll query run) outcome)))
      (t.stageAfter (.call (.landed (.poll query run) outcome)))
      (t.stepOf (.call (.landed (.poll query run) outcome))) := by
  cases hread : outcome.bind (t.config.source.snapshot query) with
  | ok snapshot =>
    have hrunning : (t.stepOf (.call (.landed (.poll query run) outcome))).running =
        some (.work { queue := [.pageLoaded query snapshot], origin := .tick run }) := by
      simp [stepOf, step, proceedCall, land, hread]
    exact leaves_of_running hrunning rfl .takes fun _ _ h => h.brings hread
  | error err =>
    cases hauth : err.isAuthInvalid with
    | true =>
      have hrunning : (t.stepOf (.call (.landed (.poll query run) outcome))).running =
          some (.work { queue := [.authInvalid], origin := .lastTick run }) := by
        simp [stepOf, step, proceedCall, land, hread, hauth]
      exact leaves_of_running hrunning rfl .takes fun _ _ h => h.rejects hread hauth
    | false =>
      have hstep : t.stepOf (.call (.landed (.poll query run) outcome)) =
          endTick { t with running := none } run .failed := by
        simp [stepOf, step, proceedCall, land, hread, hauth]
      rw [stageAfter_of_endTick rfl hstep]
      exact .ended (.misses hread hauth)

theorem leaves_polls {query : ListQuery} {run : Nat} {next : FlightNext Purpose}
    (hnext : next.purpose = .poll query run) :
    Leaves t.config.source (.polls query) (t.deeds (.call next)) (t.stageAfter (.call next))
      (t.stepOf (.call next)) := by
  cases next with
  | go delay step => exact leaves_flight fun _ _ h => .polls (h.trans hnext)
  | landed purpose outcome =>
    obtain rfl : purpose = .poll query run := hnext
    exact leaves_landed_poll outcome

theorem leaves_ticks (source : ListSource) (run : Nat) :
    Leaves source .ticks (t.deeds (.tick run)) (t.stageAfter (.tick run))
      (t.stepOf (.tick run)) := by
  cases hbegin : t.poller.beginTick? run t.world.now with
  | none =>
    have hstep : t.stepOf (.tick run) = { t with running := none } := by
      simp [stepOf, step, beginTick, hbegin]
    have hstage : t.stageAfter (.tick run) = .ended := by
      simp [stageAfter, hstep]
    rw [hstage]
    exact .ended .stopped
  | some poller =>
    have hrunning : (t.stepOf (.tick run)).running =
        some (.call (t.world.launch t.policy (t.config.source.fetchCall t.state.query)
          (.poll t.state.query run))) := by
      simp [stepOf, step, beginTick, hbegin, continueCall]
    exact leaves_of_running hrunning rfl (.polls (World.purpose_launch _ _ _ _)) fun _ _ h => h.asks

/-- What a step leaves to do. -/
theorem Owes.leaves {a : Activity} {d : Duty} (h : t.Owes a d) (hopen : t.state.disposed = false) :
    Leaves t.config.source d (t.deeds a) (t.stageAfter a) (t.stepOf a) := by
  cases h with
  | takes => exact leaves_takes hopen _ _
  | acts h => exact leaves_acts h
  | calls he hnext => exact leaves_calls he hnext
  | ticks => exact leaves_ticks _ _
  | polls hnext => exact leaves_polls hnext

/-! ## Whole courses -/

/-- As long as the view is not closed, a course leaves to do what has not been noted. -/
theorem Course.leaves {s : Session κ} {deeds : List Deed} {stage : Stage}
    (h : Course s deeds stage t) {a : Activity} {d : Duty} (ha : s.running = some a)
    (howes : s.Owes a d) (hopen : t.state.disposed = false) :
    t.config = s.config ∧ Leaves s.config.source d deeds stage t := by
  induction h with
  | start => exact ⟨rfl, .goes ha howes fun _ _ h => h⟩
  | @goOn t deeds b _ hb ih =>
    have hturn : Turn t _ (t.stepOf b) := .goOn hb
    obtain ⟨hconfig, hleaves⟩ := ih (hturn.disposed_eq hopen)
    cases hleaves with
    | goes hrunning howes htale =>
      obtain rfl := Option.some.inj (hrunning.symm.trans hb)
      have hstep := howes.leaves (hturn.disposed_eq hopen)
      rw [hconfig] at hstep
      exact ⟨hturn.config_eq.trans hconfig, hstep.trans htale⟩
  | wait _ hb hmay due urgent ih =>
    obtain ⟨hconfig, hleaves⟩ := ih hopen
    cases hleaves with
    | goes hrunning howes htale =>
      obtain rfl := Option.some.inj (hrunning.symm.trans hb)
      exact ⟨hconfig, .waits hmay (howes.of_mayWait hmay) htale⟩
  | outside _ world ih =>
    obtain ⟨hconfig, hleaves⟩ := ih hopen
    cases hleaves with
    | goes hrunning howes htale => exact ⟨hconfig, .goes hrunning (howes.of_state_eq rfl) htale⟩
  | meanwhile _ hturn _ ih =>
    obtain ⟨hconfig, hleaves⟩ := ih (hturn.disposed_eq hopen)
    cases hleaves with
    | waits hmay howes htale =>
      exact ⟨hturn.config_eq.trans hconfig, .waits hmay (howes.of_mayWait hmay) htale⟩
  | takeUp _ before hnone hagenda hjob ih =>
    obtain ⟨hconfig, hleaves⟩ := ih hopen
    cases hleaves with
    | waits hmay howes htale =>
      subst hjob
      exact ⟨hconfig, .goes rfl (howes.of_mayWait hmay) htale⟩
  | behind _ hturn ih =>
    obtain ⟨hconfig, hleaves⟩ := ih (hturn.disposed_eq hopen)
    cases hleaves with
    | ended h => exact ⟨hturn.config_eq.trans hconfig, .ended h⟩

/-- What is noted in a course is the beginning of a whole tale, and all of it once the activity is
over. -/
theorem Course.exists_tale {s : Session κ} {deeds : List Deed} {stage : Stage}
    (h : Course s deeds stage t) {a : Activity} {d : Duty} (ha : s.running = some a)
    (howes : s.Owes a d) (hopen : t.state.disposed = false) :
    ∃ rest, Tale s.config.source d true (deeds ++ rest) ∧ (stage = .ended → rest = []) := by
  obtain ⟨ended, htale, hended⟩ := (h.leaves ha howes hopen).2.exists_tale
  obtain ⟨rest, hwhole, hrest⟩ := htale.exists_whole howes.isProper
  exact ⟨rest, hwhole, fun hstage => hrest (hended hstage)⟩

end Steps

end Session

end TaskDesk
