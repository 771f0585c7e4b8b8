import TaskDesk.Proofs.Api.Retrying
import TaskDesk.Proofs.Session.Timer
import TaskDesk.Proofs.View.Demand

/-!
# What one step of an activity leads to

A step of an activity ends it, lets it go on as something else, or lets it wait. It changes the
world only by what it sends and tells. Both are said here once for all activities, so that what
holds of a session in every order of its activities needs no look into their steps.

## Main definitions

- `Session.Leads` — what goes on after a step, and what waits
- `Session.worldAfter` — the world after a step
- `Session.Tells` — what a step tells the front end and what it sends

## Main results

- `Session.leads_step` — every step leads to one of the nine
- `Session.world_step` — the world changes by sending and telling only
- `Session.exists_tells_step` — what a step adds to the events and to the attempts
-/

namespace TaskDesk

/-- The request that a flight still sends. -/
def FlightNext.request? {π : Type} : FlightNext π → Option ApiRequest
  | .go _ step => some step.flight.request
  | .landed _ _ => none

theorem FlightStep.request?_run {π κ : Type} [Vault κ] (w : World κ) (step : FlightStep π) :
    (step.run w).1.request? = some step.flight.request ∨ (step.run w).1.request? = none := by
  cases step with
  | send f => exact .inl rfl
  | receive f outcome =>
    simp only [FlightStep.run]
    split
    · exact .inr rfl
    · exact .inr rfl
    · exact .inr rfl
    · exact .inl rfl

/-- A flight tells of nothing but a rejected credential. -/
theorem FlightStep.exists_told_run {π κ : Type} [Vault κ] (w : World κ) (step : FlightStep π) :
    ∃ told, (step.run w).2.events = w.events ++ told ∧
      ∀ e ∈ told, ∃ scope, e = .authInvalid scope := by
  have hsilent (v : World κ) (hevents : v.events = w.events) :
      ∃ told, v.events = w.events ++ told ∧ ∀ e ∈ told, ∃ scope, e = .authInvalid scope :=
    ⟨[], by rw [hevents, List.append_nil], List.forall_mem_nil _⟩
  cases step with
  | send f =>
    simp only [run, World.post]
    split <;> exact hsilent _ rfl
  | receive f outcome =>
    simp only [run]
    split
    · exact hsilent _ rfl
    · exact hsilent _ rfl
    · simp only [World.reject]
      split
      · exact ⟨[_], rfl, List.forall_mem_singleton.mpr ⟨_, rfl⟩⟩
      · exact hsilent _ rfl
    · exact hsilent _ rfl

theorem Effect.isCall_of_call?_eq_none {e : Effect} {source : ListSource}
    (h : e.call? source = none) : e.isCall = false := by
  cases e with
  | fetchPage | batchDelete | clearTasks => cases h
  | _ => rfl

theorem Effect.isCall_of_call?_eq_some {e : Effect} {source : ListSource} {call : ApiCall}
    (h : e.call? source = some call) : e.isCall = true := by
  cases e with
  | fetchPage | batchDelete | clearTasks => rfl
  | _ => cases h

/-- The list that the front end is told about once the state machine has taken a message, if it may
look different. -/
def ListState.refreshed? (s : ListState) (m : Message) : Option ListView :=
  let t := (s.update m).1
  if t.dirty then some t.consumeDirty.2.view else none

/-- The activity goes on at once, or it waits. -/
inductive Activity.Queues (a : Activity) : Option Activity → List Activity → Prop
  | now : Queues a (some a) []
  | later : Queues a none [a]

namespace Session

variable {κ : Type}

/-- What a step of an activity leads to: what goes on at once, and what waits from then on. -/
inductive Leads (s : Session κ) : Activity → Option Activity → List Activity → Prop
  /-- An effect is a call, which takes off. -/
  | launched {e : Effect} {rest : Work} {next : FlightNext Purpose} (he : e.isCall = true)
      (hnext : next.purpose = .effect e rest) :
      Leads s (.work { rest with effects := e :: rest.effects }) (some (.call next)) []
  /-- An effect is carried out at once. A new run of the poller waits for its first tick. -/
  | performed {e : Effect} {rest : Work} (runs : List Nat) (he : e.isCall = false) :
      Leads s (.work { rest with effects := e :: rest.effects }) (some (.work rest))
        (runs.map .wait)
  /-- The state machine takes a message. -/
  | took {m : Message} {queue : List Message} {origin : Origin} :
      Leads s (.work { queue := m :: queue, origin })
        (some (.work { effects := (s.state.update m).2, queue, origin })) []
  /-- A flight goes on with the same request. -/
  | flew {next after : FlightNext Purpose} {now : Option Activity} {later : List Activity}
      (hpurpose : after.purpose = next.purpose)
      (hrequest : after.request? = next.request? ∨ after.request? = none)
      (hqueues : (Activity.call after).Queues now later) : Leads s (.call next) now later
  /-- The outcome of the call of an effect joins the rest of the work. -/
  | landed {e : Effect} {rest : Work} {outcome : Except ApiError ApiResponse} {m : Message} :
      Leads s (.call (.landed (.effect e rest) outcome))
        (some (.work { rest with queue := rest.queue ++ [m] })) []
  /-- The fetch of a tick becomes a message. -/
  | polled {query : ListQuery} {run : Nat} {outcome : Except ApiError ApiResponse} {m : Message}
      {origin : Origin} :
      Leads s (.call (.landed (.poll query run) outcome))
        (some (.work { queue := [m], origin })) []
  /-- A tick begins with its fetch. -/
  | ticked {run : Nat} {poller : Poller} {query : ListQuery} {next : FlightNext Purpose}
      (hbegin : s.poller.beginTick? run s.world.now = some poller)
      (hnext : next.purpose = .poll query run) : Leads s (.tick run) (some (.call next)) []
  /-- A run waits for its next tick. -/
  | awaited {a : Activity} {run : Nat} {now : Option Activity} {later : List Activity}
      (hqueues : (Activity.tick run).Queues now later) : Leads s a now later
  /-- Nothing is left to do. -/
  | ended {a : Activity} : Leads s a none []

/-- The session has come to that point from the activity. -/
def LedTo (s : Session κ) (a : Activity) (t : Session κ) : Prop :=
  ∃ later, t.agenda = s.agenda ++ later ∧ s.Leads a t.running (later.map (·.job))

theorem exists_queues_goOn (s : Session κ) (delay : Nat) (urgent : Bool) (a : Activity) :
    ∃ later, (s.goOn delay urgent a).agenda = s.agenda ++ later ∧
      a.Queues (s.goOn delay urgent a).running (later.map (·.job)) := by
  unfold goOn
  split
  · exact ⟨[], (List.append_nil _).symm, .now⟩
  · exact ⟨[_], rfl, .later⟩

theorem ledTo_of_running {s t : Session κ} {a : Activity} (hagenda : t.agenda = s.agenda)
    (h : s.Leads a t.running []) : s.LedTo a t :=
  ⟨[], by rw [hagenda, List.append_nil], h⟩

theorem ledTo_awaitTick (s t : Session κ) (hagenda : t.agenda = s.agenda) (a : Activity)
    (run : Nat) : s.LedTo a (t.awaitTick run) := by
  unfold awaitTick
  split
  · next due _ =>
    obtain ⟨later, hlater, hqueues⟩ :=
      t.exists_queues_goOn (due - t.world.now) false (.tick run)
    exact ⟨later, hlater.trans (by rw [hagenda]), .awaited hqueues⟩
  · exact ledTo_of_running hagenda .ended

theorem ledTo_endTick (s : Session κ) (a : Activity) (run : Nat) (control : PollControl) :
    s.LedTo a (s.endTick run control) := by
  refine s.ledTo_awaitTick _ ?_ a run
  unfold settleTicks
  split <;> rfl

theorem ledTo_endWork (s : Session κ) (a : Activity) (origin : Origin) :
    s.LedTo a (s.endWork origin) := by
  cases origin with
  | operator awaited =>
    simp only [endWork, settleRelease]
    split <;> exact ledTo_of_running rfl .ended
  | tick run | lastTick run => exact s.ledTo_endTick a run _

theorem ledTo_land (s : Session κ) (outcome : Except ApiError ApiResponse) (purpose : Purpose) :
    s.LedTo (.call (.landed purpose outcome)) (s.land outcome purpose) := by
  cases purpose with
  | effect e rest => exact ledTo_of_running rfl .landed
  | poll query run =>
    simp only [land]
    split
    · exact ledTo_of_running rfl .polled
    · split
      · exact ledTo_of_running rfl .polled
      · exact s.ledTo_endTick _ run .failed

section Calls

variable [Vault κ]

theorem ledTo_perform (s : Session κ) (e : Effect) (rest : Work) :
    s.LedTo (.work { rest with effects := e :: rest.effects }) (s.perform e rest) := by
  unfold perform
  split
  · next call hcall =>
    refine ledTo_of_running rfl (.launched (Effect.isCall_of_call?_eq_some hcall) ?_)
    exact World.purpose_launch _ _ _ _
  · next hnone =>
    have he := Effect.isCall_of_call?_eq_none hnone
    cases e with
    | startPolling => exact ⟨[_], rfl, .performed [_] he⟩
    | _ => exact ⟨[], (List.append_nil _).symm, .performed [] he⟩

theorem ledTo_proceedCall (s : Session κ) (next : FlightNext Purpose) :
    s.LedTo (.call next) (s.proceedCall next) := by
  cases next with
  | landed purpose outcome => exact s.ledTo_land outcome purpose
  | go delay step =>
    simp only [proceedCall]
    split
    · refine ledTo_of_running rfl (.flew (FlightStep.purpose_run _ _) ?_ .now)
      exact FlightStep.request?_run _ _
    · obtain ⟨later, hlater, hqueues⟩ := s.exists_queues_goOn delay _ (.call (.go 0 step))
      refine ⟨later, hlater, .flew ?_ ?_ hqueues⟩
      · rfl
      · exact .inl rfl

theorem ledTo_beginTick (s : Session κ) (run : Nat) : s.LedTo (.tick run) (s.beginTick run) := by
  unfold beginTick
  split
  · exact ledTo_of_running rfl .ended
  · next poller hbegin =>
    exact ledTo_of_running rfl (.ticked hbegin (World.purpose_launch _ _ _ _))

/-- Every step leads to one of the nine. -/
theorem leads_step (s : Session κ) (a : Activity) : s.LedTo a (s.step a) := by
  cases a with
  | work w =>
    obtain ⟨effects, queue, origin⟩ := w
    cases effects with
    | cons e effects => exact s.ledTo_perform e ⟨effects, queue, origin⟩
    | nil =>
      cases queue with
      | cons m queue => exact ledTo_of_running rfl .took
      | nil => exact s.ledTo_endWork _ origin
  | call next => exact s.ledTo_proceedCall next
  | wait run => exact s.ledTo_awaitTick s rfl _ run
  | tick run => exact s.ledTo_beginTick run

/-! ## The world -/

/-- The world after a step: only a notice, a message that changes the list, and a flight touch
it. -/
def worldAfter (s : Session κ) : Activity → World κ
  | .work { effects := .notify level text :: _, .. } => s.world.emit (.notice level text)
  | .work { effects := [], queue := m :: _, .. } =>
    match s.state.refreshed? m with
    | some view => s.world.emit (.listRefreshed view)
    | none => s.world
  | .call (.go 0 step) => (step.run s.world).2
  | _ => s.world

theorem world_perform (s : Session κ) (e : Effect) (rest : Work) :
    (s.perform e rest).world = s.worldAfter (.work { rest with effects := e :: rest.effects }) := by
  cases e <;> rfl

theorem world_proceedCall (s : Session κ) (next : FlightNext Purpose) :
    (s.proceedCall next).world = s.worldAfter (.call next) := by
  cases next with
  | landed purpose outcome => exact (keeps_land _ _ _).world_eq
  | go delay step =>
    cases delay with
    | zero => rfl
    | succ delay =>
      simp only [proceedCall, if_neg (Nat.succ_ne_zero delay)]
      exact (keeps_goOn _ _ _ _).world_eq

/-- The world changes by sending and telling only. -/
theorem world_step (s : Session κ) (a : Activity) : (s.step a).world = s.worldAfter a := by
  cases a with
  | work w =>
    obtain ⟨effects, queue, origin⟩ := w
    cases effects with
    | cons e effects => exact s.world_perform e ⟨effects, queue, origin⟩
    | nil =>
      cases queue with
      | cons m queue =>
        simp only [step, proceed, apply, worldAfter, ListState.refreshed?]
        cases hdirty : (s.state.update m).1.dirty <;> simp [ListState.consumeDirty, hdirty]
      | nil => exact (keeps_endWork _ _).world_eq
  | call next => exact s.world_proceedCall next
  | wait run => exact (keeps_awaitTick _ _).world_eq
  | tick run =>
    simp only [step, beginTick, worldAfter]
    split <;> rfl

/-- What a step of an activity tells the front end, and what it sends. -/
inductive Tells (s : Session κ) : Activity → List Event → List Attempt → Prop
  /-- A notice is given. -/
  | notified {level : NoticeLevel} {text : String} (rest : Work) :
      Tells s (.work { rest with effects := .notify level text :: rest.effects })
        [.notice level text] []
  /-- Any other effect tells and sends nothing by itself. -/
  | performed {e : Effect} (rest : Work) (he : ∀ level text, e ≠ .notify level text) :
      Tells s (.work { rest with effects := e :: rest.effects }) [] []
  /-- The state machine takes a message, and what it shows then may be new. -/
  | took {m : Message} {queue : List Message} {origin : Origin} :
      Tells s (.work { queue := m :: queue, origin })
        ((s.state.refreshed? m).map Event.listRefreshed).toList []
  /-- A flight sends its own request and tells of nothing but a rejected credential. -/
  | flew {next : FlightNext Purpose} {told : List Event} {sent : List Attempt}
      (htold : ∀ e ∈ told, ∃ scope, e = .authInvalid scope)
      (hsent : ∀ x ∈ sent, x.request ∈ next.request?) : Tells s (.call next) told sent
  | ended {origin : Origin} : Tells s (.work { origin }) [] []
  | awaited {run : Nat} : Tells s (.wait run) [] []
  | ticked {run : Nat} : Tells s (.tick run) [] []

omit [Vault κ] in
/-- What tells and sends nothing leaves the events and the attempts alone. -/
theorem exists_tells_of_world {s : Session κ} {a : Activity} {w : World κ} (h : s.Tells a [] [])
    (hw : w = s.world) :
    ∃ told sent, s.Tells a told sent ∧ w.events = s.world.events ++ told ∧
      w.attempts = s.world.attempts ++ sent :=
  ⟨[], [], h, by rw [hw, List.append_nil], by rw [hw, List.append_nil]⟩

/-- Every step adds what it tells to the events, and what it sends to the attempts. -/
theorem exists_tells_step (s : Session κ) (a : Activity) :
    ∃ told sent, s.Tells a told sent ∧ (s.step a).world.events = s.world.events ++ told ∧
      (s.step a).world.attempts = s.world.attempts ++ sent := by
  rw [world_step]
  cases a with
  | work w =>
    obtain ⟨effects, queue, origin⟩ := w
    cases effects with
    | cons e effects =>
      cases e with
      | notify level text =>
        exact ⟨_, _, .notified ⟨effects, queue, origin⟩, rfl, (List.append_nil _).symm⟩
      | _ => exact exists_tells_of_world (.performed ⟨effects, queue, origin⟩ nofun) rfl
    | nil =>
      cases queue with
      | nil => exact exists_tells_of_world .ended rfl
      | cons m queue =>
        refine ⟨_, _, .took, ?_, ?_⟩ <;> simp only [worldAfter]
        · cases s.state.refreshed? m with
          | none => exact (List.append_nil _).symm
          | some view => rfl
        · cases s.state.refreshed? m <;> exact (List.append_nil _).symm
  | call next =>
    have hsilent : s.Tells (.call next) [] [] :=
      .flew (List.forall_mem_nil _) (List.forall_mem_nil _)
    cases next with
    | landed => exact exists_tells_of_world hsilent rfl
    | go delay step =>
      cases delay with
      | succ delay => exact exists_tells_of_world hsilent rfl
      | zero =>
        obtain ⟨told, hevents, htold⟩ := step.exists_told_run s.world
        obtain ⟨sent, -, hattempts, hsent, -⟩ :=
          FlightStep.exists_sent_run s.world (step.carries_self 0)
        refine ⟨told, sent, .flew htold fun x hx => ?_, hevents, hattempts⟩
        obtain ⟨time, rfl⟩ := hsent x hx
        rfl
  | wait => exact exists_tells_of_world .awaited rfl
  | tick => exact exists_tells_of_world .ticked rfl

end Calls

end Session

end TaskDesk
