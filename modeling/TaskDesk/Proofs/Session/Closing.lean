import Mathlib.Data.Multiset.Filter
import TaskDesk.Proofs.Session.Step

/-!
# The end of a session

When a session is closed, calls can be under way, replies can wait to be dealt with, and a tick of
the poller can be due. All of them reach the state machine before they can ask for anything, and
the state machine of a closed view answers nothing. This needs that no effect is ever left behind a
call, which holds since a message asks for at most one call and for that one last.

## Main definitions

- `Activity.Spent` — an activity with no effects left to carry out
- `Activity.Fades` — what is left of some activities asks for nothing new
- `Session.calls`, `Session.requests` — what is under way
- `Session.Orderly` — the invariant: whatever waits is spent
- `Session.Closed` — the invariant from the end on

## Main results

- `Session.closed_for_good` — nothing begins, changes or is told after the end
-/

namespace TaskDesk

/-! ## Activities -/

/-- An activity that has no effects left to carry out, also when its call is over. -/
def Activity.Spent : Activity → Prop
  | .work w => w.effects = []
  | .call next => ∀ e rest, next.purpose = .effect e rest → rest.effects = []
  | .wait _ | .tick _ => True

/-- An activity that is spent once it waits for a call. -/
def Activity.CallsLast : Activity → Prop
  | .work w => ∀ e ∈ w.effects.dropLast, e.isCall = false
  | a => a.Spent

/-- What the call of an activity is for. -/
def Activity.purpose? : Activity → Option Purpose
  | .call next => some next.purpose
  | _ => none

/-- What the call of an activity still sends. -/
def Activity.request? : Activity → Option ApiRequest
  | .call next => next.request?
  | _ => none

theorem Activity.Spent.callsLast {a : Activity} (h : a.Spent) : a.CallsLast := by
  cases a with
  | work w =>
    have hnil : w.effects = [] := h
    simp [CallsLast, hnil]
  | call | wait | tick => exact h

/-- Behind a call nothing is left, and behind any other effect the calls still come last. -/
theorem Activity.CallsLast.of_cons {e : Effect} {rest : Work}
    (h : (Activity.work { rest with effects := e :: rest.effects }).CallsLast) :
    (e.isCall = true → rest.effects = []) ∧ (Activity.work rest).CallsLast := by
  have hdrop (hne : rest.effects ≠ []) : ∀ f ∈ e :: rest.effects.dropLast, f.isCall = false := by
    have hcons : (e :: rest.effects).dropLast = e :: rest.effects.dropLast :=
      List.dropLast_cons_of_ne_nil hne
    rw [← hcons]
    exact h
  by_cases hne : rest.effects = []
  · have hspent : (Activity.work rest).Spent := hne
    exact ⟨fun _ => hne, hspent.callsLast⟩
  · refine ⟨fun he => ?_, fun f hf => hdrop hne f (List.mem_cons_of_mem e hf)⟩
    rw [hdrop hne e List.mem_cons_self] at he
    cases he

theorem Activity.request?_eq_none {a : Activity} (h : a.purpose? = none) : a.request? = none := by
  cases a with
  | call next => cases h
  | work | wait | tick => rfl

/-- An activity that waits, or goes on, is the only one that a queue yields. -/
theorem Activity.Queues.append_eq {a : Activity} {now : Option Activity} {later : List Activity}
    (h : a.Queues now later) : now.toList ++ later = [a] := by
  cases h <;> rfl

/-- What is left of some activities is spent and asks for nothing that they did not ask for. -/
structure Activity.Fades (gone left : Multiset Activity) : Prop where
  spent : ∀ a ∈ left, a.Spent
  calls : left.filterMap purpose? ≤ gone.filterMap purpose?
  requests : left.filterMap request? ≤ gone.filterMap request?

namespace Activity.Fades

theorem refl {left : Multiset Activity} (h : ∀ a ∈ left, a.Spent) : Fades left left :=
  ⟨h, le_rfl, le_rfl⟩

/-- Activities without a call ask for nothing. -/
theorem of_none (gone : Multiset Activity) {left : Multiset Activity}
    (hspent : ∀ a ∈ left, a.Spent) (hnone : ∀ a ∈ left, a.purpose? = none) : Fades gone left := by
  have hempty {β : Type} {f : Activity → Option β} (hf : ∀ a ∈ left, f a = none) :
      left.filterMap f = 0 := by
    refine Multiset.eq_zero_of_forall_notMem fun x hx => ?_
    obtain ⟨a, ha, hsome⟩ := (Multiset.mem_filterMap f left).mp hx
    rw [hf a ha] at hsome
    cases hsome
  refine ⟨hspent, ?_, ?_⟩
  · rw [hempty hnone]
    exact Multiset.zero_le _
  · rw [hempty fun a ha => request?_eq_none (hnone a ha)]
    exact Multiset.zero_le _

/-- A call that goes on is the same call. It may have nothing more to send. -/
theorem of_call {next after : FlightNext Purpose} (hspent : (call after).Spent)
    (hpurpose : after.purpose = next.purpose)
    (hrequest : after.request? = next.request? ∨ after.request? = none) :
    Fades {call next} {call after} := by
  refine ⟨by simpa using hspent, ?_, ?_⟩
  · have hcalls : purpose? (call after) = purpose? (call next) := congrArg some hpurpose
    rw [← Multiset.cons_zero, ← Multiset.cons_zero, Multiset.filterMap_cons,
      Multiset.filterMap_cons, hcalls]
  · rw [← Multiset.cons_zero, ← Multiset.cons_zero, Multiset.filterMap_cons,
      Multiset.filterMap_cons]
    refine Multiset.add_le_add_right ?_
    rcases hrequest with heq | hnone
    · rw [request?, request?, heq]
    · rw [request?, hnone]
      exact Multiset.zero_le _

/-- The activities beside them stay as they are. -/
theorem add_right {gone left others : Multiset Activity} (h : Fades gone left)
    (hothers : ∀ a ∈ others, a.Spent) : Fades (gone + others) (left + others) := by
  refine ⟨fun a ha => ?_, ?_, ?_⟩
  · rcases Multiset.mem_add.mp ha with ha | ha
    · exact h.spent a ha
    · exact hothers a ha
  · rw [Multiset.filterMap_add, Multiset.filterMap_add]
    exact Multiset.add_le_add_right h.calls
  · rw [Multiset.filterMap_add, Multiset.filterMap_add]
    exact Multiset.add_le_add_right h.requests

end Activity.Fades

namespace Session

variable {κ : Type}

/-- The activities of a session, the one that is going on and those that wait. -/
def activities (s : Session κ) : Multiset Activity :=
  ↑s.running.toList + ↑(s.agenda.map (·.job))

/-- The calls under way, each by what it is for. -/
def calls (s : Session κ) : Multiset Purpose :=
  s.activities.filterMap Activity.purpose?

/-- The requests that are still being sent. -/
def requests (s : Session κ) : Multiset ApiRequest :=
  s.activities.filterMap Activity.request?

/-- What holds of a session at every step: whatever goes on asks for calls last, and whatever waits
is spent. -/
structure Orderly (s : Session κ) : Prop where
  running : ∀ a ∈ s.running, a.CallsLast
  agenda : ∀ e ∈ s.agenda, e.job.Spent

/-- What holds of a session from its end on. -/
structure Closed (s : Session κ) : Prop where
  inStep : s.InStep
  clean : s.state.dirty = false
  disposed : s.state.disposed = true
  spent : ∀ a ∈ s.activities, a.Spent

/-! ## Every step leaves an orderly session -/

theorem spent_call {next : FlightNext Purpose} {e : Effect} {rest : Work}
    (h : next.purpose = .effect e rest) (hrest : rest.effects = []) :
    (Activity.call next).Spent := by
  intro f others hpurpose
  obtain ⟨rfl, rfl⟩ := Purpose.effect.inj (h.symm.trans hpurpose)
  exact hrest

theorem spent_poll {next : FlightNext Purpose} {query : ListQuery} {run : Nat}
    (h : next.purpose = .poll query run) : (Activity.call next).Spent := by
  intro f others hpurpose
  rw [h] at hpurpose
  cases hpurpose

/-- What goes on after a step asks for calls last, and what waits is spent. -/
theorem Leads.callsLast {s : Session κ} {a : Activity} {now : Option Activity}
    {later : List Activity} (h : s.Leads a now later) (ha : a.CallsLast) :
    (∀ b ∈ now, b.CallsLast) ∧ ∀ b ∈ later, b.Spent := by
  have hqueued {b : Activity} (hb : b.Spent) (hqueues : b.Queues now later) :
      (∀ c ∈ now, c.CallsLast) ∧ ∀ c ∈ later, c.Spent := by
    cases hqueues with
    | now => exact ⟨Activity.forall_mem_some hb.callsLast, List.forall_mem_nil _⟩
    | later => exact ⟨Activity.forall_mem_none, List.forall_mem_singleton.mpr hb⟩
  cases h with
  | launched he hnext =>
    have hcall := spent_call hnext (ha.of_cons.1 he)
    exact ⟨Activity.forall_mem_some hcall.callsLast, List.forall_mem_nil _⟩
  | performed =>
    exact ⟨Activity.forall_mem_some ha.of_cons.2, List.forall_mem_map.mpr fun _ _ => trivial⟩
  | @took m queue origin =>
    have hlast : (Activity.work ⟨(s.state.update m).2, queue, origin⟩).CallsLast :=
      fun e he => ListState.isCall_of_mem_dropLast_update he
    exact ⟨Activity.forall_mem_some hlast, List.forall_mem_nil _⟩
  | @flew next after _ _ hpurpose _ hqueues =>
    have hafter : (Activity.call after).Spent := by
      intro e rest hrest
      exact ha e rest (hpurpose ▸ hrest)
    exact hqueued hafter hqueues
  | @landed e rest outcome m =>
    have hrest : rest.effects = [] := ha e rest rfl
    have hwork : (Activity.work { rest with queue := rest.queue ++ [m] }).Spent := hrest
    exact ⟨Activity.forall_mem_some hwork.callsLast, List.forall_mem_nil _⟩
  | @polled query run outcome m origin =>
    have hwork : (Activity.work { queue := [m], origin }).Spent := rfl
    exact ⟨Activity.forall_mem_some hwork.callsLast, List.forall_mem_nil _⟩
  | ticked _ hnext =>
    exact ⟨Activity.forall_mem_some (spent_poll hnext).callsLast, List.forall_mem_nil _⟩
  | @awaited _ run _ _ hqueues =>
    have htick : (Activity.tick run).Spent := trivial
    exact hqueued htick hqueues
  | ended => exact ⟨Activity.forall_mem_none, List.forall_mem_nil _⟩

theorem orderly_opened (config : ViewConfig) (policy : RetryPolicy) (world : World κ) :
    (opened config policy world).Orderly where
  running := Activity.forall_mem_none
  agenda := List.forall_mem_nil _

variable [Vault κ]

theorem Orderly.step {s : Session κ} (h : s.Orderly) {a : Activity} (ha : a.CallsLast) :
    (s.step a).Orderly := by
  obtain ⟨later, hagenda, hleads⟩ := s.leads_step a
  obtain ⟨hrunning, hlater⟩ := hleads.callsLast ha
  refine ⟨hrunning, ?_⟩
  rw [hagenda]
  exact List.forall_mem_append.mpr ⟨h.agenda, List.forall_mem_map.mp hlater⟩

theorem Turn.orderly {s t : Session κ} {new : List Mark} (h : Turn s new t) (hs : s.Orderly) :
    t.Orderly := by
  have hholds : t.Holds Activity.CallsLast Activity.Spent := by
    refine h.holds ⟨hs.running, hs.agenda⟩ ?_ (fun _ ha => ha) ?_ (fun _ ha => ha)
      (fun _ ha => ha.callsLast) ?_
    · intro a ha _
      have hidle : Orderly { s with running := none } :=
        { hs with running := Activity.forall_mem_none }
      have hnext := hidle.step (hs.running a ha)
      exact ⟨hnext.running, hnext.agenda⟩
    · intro a hmay ha
      cases a with
      | work => cases hmay
      | call | wait | tick => exact ha
    · intro m origin
      have hwork : (Activity.work { queue := [m], origin }).Spent := rfl
      exact ⟨hwork.callsLast, hwork⟩
  exact ⟨hholds.running, hholds.agenda⟩

theorem Turns.orderly {s t : Session κ} {marks : List Mark} (h : Turns s marks t)
    (hs : s.Orderly) : t.Orderly := by
  induction h with
  | refl => exact hs
  | tail _ hturn ih => exact hturn.orderly ih

/-! ## A closed session -/

omit [Vault κ] in
theorem activities_of_idle {s : Session κ} (h : s.running = none) :
    s.activities = ↑(s.agenda.map (·.job)) := by
  simp [activities, h]

omit [Vault κ] in
theorem activities_of_running {s : Session κ} {a : Activity} (h : s.running = some a) :
    s.activities = {a} + ↑(s.agenda.map (·.job)) := by
  simp [activities, h]

omit [Vault κ] in
/-- What came onto the agenda is set apart from what was there. -/
theorem activities_of_append {s t : Session κ} {later : List (Agenda.Entry Activity)}
    (h : t.agenda = s.agenda ++ later) :
    t.activities =
      ↑t.running.toList + ↑(later.map (·.job)) + ↑(s.agenda.map (·.job)) := by
  rw [activities, h, List.map_append, ← Multiset.coe_add, Multiset.add_assoc]
  exact congrArg _ (Multiset.add_comm _ _)

theorem Orderly.closed_dispose {s : Session κ} (h : s.Orderly) (hs : s.InStep)
    (hidle : s.running = none) : s.dispose.Closed where
  inStep := (Turn.dispose hidle).inStep hs
  clean := rfl
  disposed := (ListState.disposed_update_iff _ _).mpr (.inr rfl)
  spent := by
    have hactivities : s.dispose.activities = s.activities := rfl
    rw [hactivities, activities_of_idle hidle]
    exact List.forall_mem_map.mpr h.agenda

omit [Vault κ] in
/-- Polling is off in a closed session, and so is the poller, also while an activity goes on. -/
theorem Closed.not_polling {s : Session κ} (h : s.Closed) :
    s.state.polling = false ∧ s.poller.isActive = false := by
  have hpolling : s.state.polling = false := by
    simpa [h.disposed] using h.inStep.sound.state.disposed_eq
  refine ⟨hpolling, ?_⟩
  have hgoes := h.inStep.goes
  cases hrunning : s.running with
  | none =>
    rw [hrunning] at hgoes
    exact hgoes.trans hpolling
  | some a =>
    rw [hrunning] at hgoes
    have hspent : a.Spent := h.spent a (by simp [activities, hrunning])
    cases a with
    | work w =>
      have hagrees := hgoes.agrees
      rw [show w.effects = [] from hspent] at hagrees
      exact hagrees.trans hpolling
    | call | wait | tick => exact hgoes.2.trans hpolling

omit [Vault κ] in
/-- A step leaves nothing new: no effect is carried out, the state machine answers nothing, and no
tick begins. -/
theorem Closed.fades {s : Session κ} (h : s.Closed) {a : Activity} (ha : a.Spent)
    {now : Option Activity} {later : List Activity} (hleads : s.Leads a now later) :
    Activity.Fades {a} (↑now.toList + ↑later) := by
  have hwork {w : Work} (hw : w.effects = []) :
      Activity.Fades {a} (↑(some (Activity.work w)).toList + ↑([] : List Activity)) := by
    have hspent : (Activity.work w).Spent := hw
    exact .of_none _ (by simpa using hspent) (by simp [Activity.purpose?])
  cases hleads with
  | launched | performed => cases ha
  | @took m queue origin =>
    rw [ListState.update_of_disposed h.disposed]
    exact hwork rfl
  | @flew next after _ _ hpurpose hrequest hqueues =>
    have hspent : (Activity.call after).Spent := by
      intro e rest hrest
      exact ha e rest (hpurpose ▸ hrest)
    rw [Multiset.coe_add, hqueues.append_eq]
    exact .of_call hspent hpurpose hrequest
  | @landed e rest outcome m =>
    have hrest : rest.effects = [] := ha e rest rfl
    exact hwork hrest
  | polled => exact hwork rfl
  | @ticked run poller query next hbegin =>
    -- An active poller would have been needed.
    obtain ⟨-, hactive, -⟩ := h.inStep.sound.poller.isActive_of_beginTick? hbegin
    rw [h.not_polling.2] at hactive
    cases hactive
  | @awaited _ run _ _ hqueues =>
    rw [Multiset.coe_add, hqueues.append_eq]
    have hspent : (Activity.tick run).Spent := trivial
    exact .of_none _ (by simpa using hspent) (by simp [Activity.purpose?])
  | ended => exact .of_none _ (by simp) (by simp)

/-- A step changes nothing but what goes on and what waits. -/
theorem Closed.state_step_eq {s : Session κ} (h : s.Closed) (a : Activity) :
    (s.step a).state = s.state := by
  rcases s.state_step a with ⟨m, -, hstate⟩ | ⟨hstate, -⟩
  · rw [hstate, ListState.update_of_disposed h.disposed, ← h.clean]
  · exact hstate

omit [Vault κ] in
theorem Closed.idle {s : Session κ} (h : s.Closed) : { s with running := none }.Closed where
  inStep := by
    obtain ⟨hpolling, hactive⟩ := h.not_polling
    refine ⟨{ h.inStep.sound with }, ?_⟩
    exact hactive.trans hpolling.symm
  clean := h.clean
  disposed := h.disposed
  spent a ha := by
    rw [activities_of_idle rfl] at ha
    exact h.spent a (Multiset.mem_add.mpr (.inr ha))

/-- Whoever goes on, the activities of a closed session fade. -/
theorem Closed.fades_turn {s t : Session κ} {new : List Mark} (h : s.Closed)
    (hturn : Turn s new t) : Activity.Fades s.activities t.activities := by
  have hspent := h.spent
  have hsame (heq : t.activities = s.activities) : Activity.Fades s.activities t.activities := by
    rw [heq]
    exact .refl hspent
  have hadded (m : Message) (origin : Origin)
      (heq : t.activities = {.work { queue := [m], origin }} + s.activities) :
      Activity.Fades s.activities t.activities := by
    have hwork : (Activity.work { queue := [m], origin }).Spent := rfl
    rw [heq, ← Multiset.zero_add s.activities, ← Multiset.add_assoc]
    refine Activity.Fades.add_right ?_ hspent
    exact .of_none _ (by simpa using hwork) (by simp [Activity.purpose?])
  cases hturn with
  | @goOn a ha =>
    obtain ⟨later, hagenda, hleads⟩ := leads_step { s with running := none } a
    rw [activities_of_running ha] at hspent
    rw [activities_of_append hagenda, activities_of_running ha]
    refine Activity.Fades.add_right (h.idle.fades (hspent a (by simp)) hleads) fun b hb => ?_
    exact hspent b (Multiset.mem_add.mpr (.inr hb))
  | @wait a ha hmay due urgent =>
    refine hsame ?_
    rw [activities_of_append rfl, activities_of_running ha]
    rfl
  | @takeUp before e after hnone hagenda =>
    refine hsame ?_
    rw [activities_of_idle hnone, activities_of_running rfl, hagenda, Multiset.singleton_add,
      Multiset.cons_coe]
    exact (Multiset.coe_eq_coe.mpr (List.perm_middle.map Agenda.Entry.job)).symm
  | dispatch hnone m =>
    refine hadded m (.operator true) ?_
    rw [activities_of_running rfl, activities_of_idle hnone]
    rfl
  | spawn hnone m due =>
    refine hadded m (.operator false) ?_
    rw [activities_of_append rfl, activities_of_idle hnone, hnone]
    rfl
  | dispose hnone => exact hsame rfl
  | outside world => exact hsame rfl

/-- Whoever goes on, a closed session stays closed, and its state stays as it is. -/
theorem Closed.turn {s t : Session κ} {new : List Mark} (h : s.Closed) (hturn : Turn s new t) :
    t.Closed ∧ t.state = s.state := by
  have hstate : t.state = s.state := by
    cases hturn with
    | goOn => exact h.idle.state_step_eq _
    | dispose =>
      change { (s.state.update .disposed).1 with dirty := false } = s.state
      rw [ListState.update_of_disposed h.disposed, ← h.clean]
    | wait | takeUp | dispatch | spawn | outside => rfl
  refine ⟨⟨hturn.inStep h.inStep, ?_, ?_, (h.fades_turn hturn).spent⟩, hstate⟩
  · rw [hstate]
    exact h.clean
  · rw [hstate]
    exact h.disposed

/-- From the end of a session on, its state stays as it is, and what is sent was being sent. -/
theorem Turns.closed {s t : Session κ} {marks : List Mark} (h : Turns s marks t) (hs : s.Closed) :
    t.Closed ∧ t.state = s.state ∧ t.requests ≤ s.requests := by
  induction h with
  | refl => exact ⟨hs, rfl, le_rfl⟩
  | tail _ hturn ih =>
    obtain ⟨hclosed, hstate, hrequests⟩ := ih
    obtain ⟨hclosed', hstate'⟩ := hclosed.turn hturn
    exact ⟨hclosed', hstate'.trans hstate, (hclosed.fades_turn hturn).requests.trans hrequests⟩

/-- A step of a closed session tells of nothing but a rejected credential, and sends nothing but
what was being sent. -/
theorem Closed.exists_told_step {s : Session κ} (h : s.Closed) {a : Activity}
    (ha : s.running = some a) :
    ∃ told sent, (step { s with running := none } a).world.events = s.world.events ++ told ∧
      (∀ e ∈ told, ∃ scope, e = .authInvalid scope) ∧
      (step { s with running := none } a).world.attempts = s.world.attempts ++ sent ∧
      ∀ x ∈ sent, x.request ∈ s.requests := by
  have hmem : a ∈ s.activities := by simp [activities_of_running ha]
  have hspent : a.Spent := h.spent a hmem
  obtain ⟨told, sent, htells, hevents, hattempts⟩ :=
    exists_tells_step { s with running := none } a
  refine ⟨told, sent, hevents, ?_, hattempts, ?_⟩
  · cases htells with
    -- Nothing is left to carry out after the end, so no notice is given.
    | notified => cases hspent
    | @took m =>
      have hnone : s.state.refreshed? m = none := by
        simp only [ListState.refreshed?, ListState.update_of_disposed h.disposed]
        simp [h.clean]
      change ∀ e ∈ ((s.state.refreshed? m).map Event.listRefreshed).toList, _
      rw [hnone]
      exact List.forall_mem_nil _
    | flew htold => exact htold
    | performed | ended | awaited | ticked => exact List.forall_mem_nil _
  · cases htells with
    | @flew next _ _ _ hsent =>
      exact fun x hx => (Multiset.mem_filterMap _ _).mpr ⟨.call next, hmem, hsent x hx⟩
    | _ => exact List.forall_mem_nil _

omit [Vault κ] in
/-- A closed session that is closed once more is what it was. -/
theorem Closed.world_dispose {s : Session κ} (h : s.Closed) : s.dispose.world = s.world := by
  simp [dispose, apply, stopPolling, ListState.update_of_disposed h.disposed,
    ListState.consumeDirty, h.clean]

/-- A world with a credential, which the backend is about to reject. -/
private def rejecting : World MemoryVault :=
  { script := [{ content := .response ⟨401, []⟩ }], vault := ⟨{ admin := some "key" }⟩ }

/-- After the end of a session, in every order of what its activities, its operator, the clock and
the backend do from then on: the state of the list stays as it is, and the poller is not active. No
turn leaves a call that was not under way before it. A step of the session tells the front end of
nothing but a rejected credential, and sends nothing but the requests of the calls that were under
way at the end. To close the session again tells nothing either. -/
theorem closed_for_good (config : ViewConfig) (policy : RetryPolicy) (world : World κ)
    {before later : List Mark} {s t : Session κ}
    (hs : Turns (opened config policy world) before s) (hidle : s.running = none)
    (ht : Turns s.dispose later t) :
    t.state = s.dispose.state ∧ t.poller.isActive = false ∧
      (∀ new u, Turn t new u → u.calls ≤ t.calls) ∧
      (∀ a, t.running = some a →
        ∃ told sent, (step { t with running := none } a).world.events = t.world.events ++ told ∧
          (∀ e ∈ told, ∃ scope, e = .authInvalid scope) ∧
          (step { t with running := none } a).world.attempts = t.world.attempts ++ sent ∧
          ∀ x ∈ sent, x.request ∈ s.requests) ∧
      t.dispose.world = t.world := by
  have horderly := hs.orderly (orderly_opened config policy world)
  have hinStep := hs.inStep (inStep_opened config policy world)
  obtain ⟨hclosed, hstate, hrequests⟩ := ht.closed (horderly.closed_dispose hinStep hidle)
  refine ⟨hstate, hclosed.not_polling.2, fun new u hturn => (hclosed.fades_turn hturn).calls,
    fun a ha => ?_, hclosed.world_dispose⟩
  obtain ⟨told, sent, hevents, htold, hattempts, hsent⟩ := hclosed.exists_told_step ha
  refine ⟨told, sent, hevents, htold, hattempts, fun x hx => ?_⟩
  exact Multiset.mem_of_le hrequests (hsent x hx)

/-- A fetch that takes off before the end is sent after it. Its credential is rejected, which the
front end is told of, and the list takes no notice. -/
theorem closed_for_good_after_rejection :
    ∃ (before later : List Mark) (m : Message) (s t : Session MemoryVault),
      Turns (opened {} {} rejecting) before s ∧ s.running = none ∧
        Turns s.dispose (later ++ [.took s.dispose.state m]) t ∧
        s.world.attempts = [] ∧ t.world.attempts.length = 1 ∧
        t.world.events = s.world.events ++ [.authInvalid .admin] ∧
        t.state = s.dispose.state ∧ t.poller.isActive = false := by
  have hasked : Turns (opened {} {} rejecting) _ _ := (Turn.dispatch rfl .refreshRequested).turns
  have hflight := (hasked.tail (.goOn rfl)).tail (.goOn rfl)
  have hwait := hflight.tail (.wait rfl (by exact trivial) 0 false)
  have hstart {t : Session MemoryVault} {marks : List Mark}
      (_ : Turns (opened {} {} rejecting) marks t) : Turns t [] t := .refl
  have hclosed := (hstart (hwait.tail (.dispose rfl))).tail (.takeUp [] rfl rfl)
  have hsent := (hclosed.tail (.goOn rfl)).tail (.goOn rfl)
  have htook := (hsent.tail (.goOn rfl)).tail (.goOn rfl)
  obtain ⟨hstate, hactive, -⟩ := closed_for_good _ _ _ hwait rfl htook
  exact ⟨_, _, _, _, _, hwait, rfl, htook, rfl, rfl, rfl, hstate, hactive⟩

end Session

end TaskDesk
