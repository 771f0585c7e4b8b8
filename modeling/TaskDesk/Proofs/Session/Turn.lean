import TaskDesk.Proofs.Clock.Agenda
import TaskDesk.Session.Run

/-!
# Every order of the activities of a session

The activities of a session switch only where they wait. Which one goes on then is up to the
scheduler, so a turn lets any activity that waits go on, whatever the clock says, lets one that
could go on wait, and lets the operator act whenever nothing is going on. The world may change at
any time. Marks say what the state machine took and which ticks began.

## Main definitions

- `Mark` — what an observer of a session notes
- `Session.Turn` — one step of a session under any scheduler
- `Session.Turns` — some turns, with their marks
- `Session.Holds` — what holds of the activities of a session

## Main results

- `Session.Turn.holds` — what a turn makes of what holds of the activities
- `Session.exists_turns_run` — the steps that the clock chooses are turns
- `Session.exists_turns_dispatch`, `Session.exists_turns_spawn`, `Session.exists_turns_sleep`,
  `Session.exists_turns_finish` — so is what the operator does
-/

namespace TaskDesk

/-- What an observer of a session notes. -/
inductive Mark where
  /-- The state machine took a message in that state. -/
  | took (state : ListState) (message : Message)
  /-- A tick of a run began. -/
  | ticked (run : Nat)

/-- The activity may let others go on first: it is about to send or to use a reply, or it has
nothing to do but to wait for a tick. -/
def Activity.MayWait : Activity → Prop
  | .call (.go _ _) | .wait _ | .tick _ => True
  | .work _ | .call (.landed _ _) => False

theorem Activity.forall_mem_none {p : Activity → Prop} : ∀ a ∈ (none : Option Activity), p a :=
  fun _ ha => absurd ha (Option.not_mem_none _)

theorem Activity.forall_mem_some {p : Activity → Prop} {a : Activity} (h : p a) :
    ∀ b ∈ some a, p b :=
  fun _ hb => Option.mem_some.mp hb ▸ h

namespace Session

variable {κ : Type} [Vault κ]

/-- What the next step of an activity is noted as. -/
def marks (s : Session κ) : Activity → List Mark
  | .work { effects := [], queue := m :: _, .. } => [.took s.state m]
  | .tick run => if (s.poller.beginTick? run s.world.now).isSome then [.ticked run] else []
  | _ => []

/-- One step of a session under any scheduler, and what is noted about it. -/
inductive Turn (s : Session κ) : List Mark → Session κ → Prop
  /-- The activity that is going on takes its next step. -/
  | goOn {a : Activity} (h : s.running = some a) :
      Turn s (s.marks a) ({ s with running := none }.step a)
  /-- It waits instead. -/
  | wait {a : Activity} (h : s.running = some a) (ha : a.MayWait) (due : Nat) (urgent : Bool) :
      Turn s [] { s with running := none, agenda := s.agenda ++ [{ due, urgent, job := a }] }
  /-- An activity that waits goes on. -/
  | takeUp (before : List (Agenda.Entry Activity)) {e : Agenda.Entry Activity}
      {after : List (Agenda.Entry Activity)} (h : s.running = none)
      (hagenda : s.agenda = before ++ e :: after) :
      Turn s [] (s.takeUp e (before ++ after))
  /-- The operator dispatches a message and waits for the end. -/
  | dispatch (h : s.running = none) (m : Message) : Turn s [] (s.beginDispatch m)
  /-- The operator dispatches a message without waiting. -/
  | spawn (h : s.running = none) (m : Message) (due : Nat) :
      Turn s []
        { s with
          dispatches := s.dispatches + 1
          agenda :=
            s.agenda ++ [{ due, job := .work { queue := [m], origin := .operator false } }] }
  /-- The operator closes the view. -/
  | dispose (h : s.running = none) : Turn s [.took s.state .disposed] s.dispose
  /-- The clock, the backend or the credentials change. -/
  | outside (world : World κ) : Turn s [] { s with world }

/-- Some turns, and all that is noted about them, in order. -/
inductive Turns (s : Session κ) : List Mark → Session κ → Prop
  | refl : Turns s [] s
  | tail {t u : Session κ} {marks new : List Mark} (h : Turns s marks t) (hturn : Turn t new u) :
      Turns s (marks ++ new) u

theorem Turns.trans {s t u : Session κ} {marks others : List Mark} (h : Turns s marks t)
    (hothers : Turns t others u) : Turns s (marks ++ others) u := by
  induction hothers with
  | refl => rw [List.append_nil]; exact h
  | tail _ hturn ih => rw [← List.append_assoc]; exact .tail ih hturn

theorem Turn.turns {s t : Session κ} {new : List Mark} (h : Turn s new t) : Turns s new t :=
  .tail .refl h

/-- `P` holds of the activity that is going on, and `Q` of those that wait. -/
structure Holds (s : Session κ) (P Q : Activity → Prop) : Prop where
  running : ∀ a ∈ s.running, P a
  agenda : ∀ e ∈ s.agenda, Q e.job

/-- What holds after every turn: it is enough to look at the step of the activity that is going on,
and at what it means to wait, to be taken up and to be asked for. -/
theorem Turn.holds {s t : Session κ} {new : List Mark} {P Q R S : Activity → Prop}
    (h : Turn s new t) (hs : s.Holds P Q)
    (hstep : ∀ a, s.running = some a → new = s.marks a →
      ({ s with running := none }.step a).Holds R S)
    (hstay : ∀ a, P a → R a) (hwait : ∀ a, a.MayWait → P a → S a) (hlater : ∀ a, Q a → S a)
    (htakeUp : ∀ a, Q a → R a)
    (hmessage : ∀ m origin, R (.work { queue := [m], origin }) ∧
      S (.work { queue := [m], origin })) : t.Holds R S := by
  have hrunning : ∀ a ∈ s.running, R a := fun a ha => hstay a (hs.running a ha)
  have hagenda : ∀ e ∈ s.agenda, S e.job := fun e he => hlater _ (hs.agenda e he)
  cases h with
  | @goOn a ha => exact hstep a ha rfl
  | @wait a ha hmay due urgent =>
    refine ⟨Activity.forall_mem_none, List.forall_mem_append.mpr ⟨hagenda, ?_⟩⟩
    exact List.forall_mem_singleton.mpr (hwait a hmay (hs.running a ha))
  | @takeUp before e after hnone heq =>
    have hmem : e ∈ s.agenda := by simp [heq]
    rw [heq] at hagenda
    obtain ⟨hbefore, hafter⟩ := List.forall_mem_append.mp hagenda
    refine ⟨Activity.forall_mem_some (htakeUp _ (hs.agenda e hmem)), ?_⟩
    exact List.forall_mem_append.mpr ⟨hbefore, (List.forall_mem_cons.mp hafter).2⟩
  | dispatch hnone m => exact ⟨Activity.forall_mem_some (hmessage m _).1, hagenda⟩
  | spawn hnone m due =>
    refine ⟨hrunning, List.forall_mem_append.mpr ⟨hagenda, ?_⟩⟩
    exact List.forall_mem_singleton.mpr (hmessage m _).2
  | dispose | outside => exact ⟨hrunning, hagenda⟩

/-! ## What the clock chooses -/

theorem exists_turn_next? {limit : Option Nat} {s t : Session κ} (h : s.next? limit = some t) :
    ∃ new, Turn s new t := by
  unfold next? at h
  split at h
  · next a ha =>
    obtain rfl := Option.some.inj h
    exact ⟨_, .goOn ha⟩
  · next hnone =>
    split at h
    · next e rest hdue =>
      obtain rfl := Option.some.inj h
      obtain ⟨⟨before, after, hagenda, rfl⟩, -⟩ := Agenda.eq_append_of_dueBy? hdue
      exact ⟨_, .takeUp before hnone hagenda⟩
    · cases h

/-- The steps that the clock chooses are turns. -/
theorem exists_turns_run (goal : Session κ → Bool) (limit : Option Nat) (fuel : Nat)
    (s : Session κ) : ∃ marks, Turns s marks (s.run goal limit fuel) := by
  induction fuel generalizing s with
  | zero => exact ⟨_, .refl⟩
  | succ fuel ih =>
    unfold run
    split
    · exact ⟨_, .refl⟩
    · split
      · exact ⟨_, .refl⟩
      · next t ht =>
        obtain ⟨new, hturn⟩ := exists_turn_next? ht
        obtain ⟨marks, hturns⟩ := ih t
        exact ⟨_, hturn.turns.trans hturns⟩

theorem exists_turns_settle (s : Session κ) : ∃ marks, Turns s marks s.settle :=
  exists_turns_run _ _ _ s

/-! ## What the operator does -/

theorem exists_turns_dispatch {s : Session κ} (h : s.running = none) (m : Message) :
    ∃ marks, Turns s marks (s.dispatch m) := by
  obtain ⟨waited, hwaited⟩ :=
    exists_turns_run (fun s => !s.awaiting) none fuel (s.beginDispatch m)
  obtain ⟨settled, hsettled⟩ := exists_turns_settle ((s.beginDispatch m).awaitDispatch none)
  exact ⟨_, (Turn.dispatch h m).turns.trans (hwaited.trans hsettled)⟩

theorem exists_turns_spawn {s : Session κ} (h : s.running = none) (m : Message) :
    ∃ marks, Turns s marks (s.spawn m) := by
  have hspawn := (Turn.spawn h m s.world.now).turns
  obtain ⟨settled, hsettled⟩ := exists_turns_settle
    { s with
      dispatches := s.dispatches + 1
      agenda := s.agenda ++
        [{ due := s.world.now, job := .work { queue := [m], origin := .operator false } }] }
  exact ⟨_, hspawn.trans hsettled⟩

theorem exists_turns_sleep (s : Session κ) (ms : Nat) : ∃ marks, Turns s marks (s.sleep ms) := by
  obtain ⟨slept, hslept⟩ := exists_turns_run (fun _ => false) (some (s.world.now + ms)) fuel s
  exact ⟨_, hslept.tail (.outside _)⟩

theorem exists_turns_finish (s : Session κ) : ∃ marks, Turns s marks s.finish := by
  obtain ⟨waited, hwaited⟩ :=
    exists_turns_run (fun t => t.poller.hasEnded s.poller.currentNumber) none fuel s
  obtain ⟨settled, hsettled⟩ := exists_turns_settle (s.awaitPolling none)
  exact ⟨_, hwaited.trans hsettled⟩

end Session

end TaskDesk
