import TaskDesk.Clock.Timeline
import TaskDesk.Proofs.Clock.Agenda

/-!
# Every order of what a poller does

The operator starts, stops and lets go of a poller whenever nothing is going on, time passes, and
what waits on the agenda goes on in any order, but not before it is due. So what is due at one
instant may come before or after anything that the operator does then.

## Main definitions

- `PollNote` — what an observer of a poller notes
- `PollNote.Ends` — something after which no tick of a run may begin
- `PollNote.Since` — what was noted after a run was started
- `Timeline.Turn`, `Timeline.Turns` — one step in any order, and some steps

## Main results

- `Timeline.exists_turns_run` — the steps that the clock chooses are turns
- `Timeline.exists_turns_settle`, `Timeline.exists_turns_sleep`, `Timeline.exists_turns_finish` —
  so is what the operator waits for
-/

namespace TaskDesk

/-- What an observer of a poller notes. -/
inductive PollNote where
  | started (run time interval : Nat)
  | stopped
  /-- The poller was let go of. -/
  | dropped
  | began (run time : Nat)
  | returned (run : Nat) (control : PollControl)
deriving DecidableEq

namespace PollNote

/-- No tick of that run may begin after this, if it is noted after the start of the run: the poller
is stopped, let go of or started again, or a tick of the run says that it was the last one. -/
def Ends (run : Nat) : PollNote → Prop
  | started _ _ _ | stopped | dropped => True
  | began _ _ => False
  | returned number control => number = run ∧ control = .stop

/-- A run is started. -/
def isStart : PollNote → Bool
  | started _ _ _ => true
  | _ => false

/-- A tick of the run begins. -/
def isBegin (run : Nat) : PollNote → Bool
  | began number _ => number == run
  | _ => false

/-- A tick of the run returns. -/
def isReturn (run : Nat) : PollNote → Bool
  | returned number _ => number == run
  | _ => false

/-- As many ticks of the run began as returned. -/
def Idle (run : Nat) (notes : List PollNote) : Prop :=
  notes.countP (isBegin run) = notes.countP (isReturn run)

/-- The run was started then, with that interval, and `since` is what was noted after it. -/
def Since (notes : List PollNote) (run start interval : Nat) (since : List PollNote) : Prop :=
  ∃ before, notes = before ++ .started run start interval :: since

theorem Since.append {notes since : List PollNote} {run start interval : Nat}
    (h : Since notes run start interval since) (new : List PollNote) :
    Since (notes ++ new) run start interval (since ++ new) := by
  obtain ⟨before, rfl⟩ := h
  exact ⟨before, by rw [List.append_assoc, List.cons_append]⟩

theorem since_concat (notes : List PollNote) (run start interval : Nat) :
    Since (notes ++ [.started run start interval]) run start interval [] :=
  ⟨notes, rfl⟩

/-- What was noted since a start is known by how many starts came later. -/
theorem Since.unique {notes since since' : List PollNote}
    {run start start' interval interval' : Nat}
    (h : Since notes run start interval since) (h' : Since notes run start' interval' since')
    (hcount : since.countP isStart = since'.countP isStart) : since = since' := by
  obtain ⟨before, rfl⟩ := h
  obtain ⟨before', h'⟩ := h'
  rcases List.append_eq_append_iff.mp h' with ⟨between, -, hsince⟩ | ⟨between, -, hsince⟩
  · cases between with
    | nil => exact (List.cons.inj hsince).2
    | cons note between =>
      obtain ⟨-, rfl⟩ := List.cons.inj hsince
      simp [List.countP_append, List.countP_cons, isStart] at hcount
      omega
  · cases between with
    | nil => exact (List.cons.inj hsince).2.symm
    | cons note between =>
      obtain ⟨-, rfl⟩ := List.cons.inj hsince
      simp [List.countP_append, List.countP_cons, isStart] at hcount
      omega

end PollNote

namespace Timeline

/-- What it is noted as that a job goes on. -/
def notes (t : Timeline) : TimelineJob → List PollNote
  | .wait _ => []
  | .begin run => if (t.poller.beginTick? run t.now).isSome then [.began run t.now] else []
  | .finish run _ control => [.returned run control]

/-- One step, and what is noted about it. -/
inductive Turn (t : Timeline) : List PollNote → Timeline → Prop
  | start (interval : Nat) (plans : List TickPlan) (h : 0 < interval) :
      Turn t [.started (t.poller.currentNumber + 1) t.now interval] (t.start interval plans)
  | stop : Turn t [.stopped] t.stop
  | drop : Turn t [.dropped] t.stop
  /-- Something that waits goes on, at its time or later. -/
  | takeUp (before : List (Agenda.Entry TimelineJob)) {e : Agenda.Entry TimelineJob}
      {after : List (Agenda.Entry TimelineJob)} (h : t.agenda = before ++ e :: after) :
      Turn t (notes { t with now := max t.now e.due } e.job)
        ({ t with now := max t.now e.due, agenda := before ++ after }.perform e.job)
  /-- Time passes. -/
  | elapse (now : Nat) (h : t.now ≤ now) : Turn t [] { t with now }

/-- Some steps, and all that is noted about them, in order. -/
inductive Turns (t : Timeline) : List PollNote → Timeline → Prop
  | refl : Turns t [] t
  | tail {u v : Timeline} {notes new : List PollNote} (h : Turns t notes u)
      (hturn : Turn u new v) : Turns t (notes ++ new) v

theorem Turns.trans {t u v : Timeline} {notes others : List PollNote} (h : Turns t notes u)
    (hothers : Turns u others v) : Turns t (notes ++ others) v := by
  induction hothers with
  | refl => rw [List.append_nil]; exact h
  | tail _ hturn ih => rw [← List.append_assoc]; exact .tail ih hturn

theorem Turn.turns {t u : Timeline} {new : List PollNote} (h : Turn t new u) : Turns t new u :=
  .tail .refl h

/-! ## What the clock chooses -/

theorem now_planTick (t : Timeline) (run : Nat) : (t.planTick run).now = t.now := by
  unfold planTick
  split <;> rfl

/-- Going on takes no time. -/
theorem now_perform (t : Timeline) (job : TimelineJob) : (t.perform job).now = t.now := by
  cases job with
  | wait run => exact now_planTick t run
  | begin run =>
    change (t.beginTick run).now = t.now
    unfold beginTick
    split <;> rfl
  | finish run tick control => exact now_planTick _ run

theorem exists_turn_step? {limit : Option Nat} {t u : Timeline} (h : t.step? limit = some u) :
    (∃ new, Turn t new u) ∧ ∀ time ∈ limit, t.now ≤ time → u.now ≤ time := by
  unfold step? at h
  split at h
  · cases h
  · next e rest hdue =>
    obtain rfl := Option.some.inj h
    obtain ⟨⟨before, after, hagenda, rfl⟩, hby⟩ := Agenda.eq_append_of_dueBy? hdue
    refine ⟨⟨_, .takeUp before hagenda⟩, fun time htime hnow => ?_⟩
    rw [now_perform]
    exact Nat.max_le.mpr ⟨hnow, hby time htime⟩

/-- The steps that the clock chooses are turns, and none is taken after the limit. -/
theorem exists_turns_run (goal : Timeline → Bool) (limit : Option Nat) (fuel : Nat)
    (t : Timeline) :
    (∃ notes, Turns t notes (t.run goal limit fuel)) ∧
      ∀ time ∈ limit, t.now ≤ time → (t.run goal limit fuel).now ≤ time := by
  induction fuel generalizing t with
  | zero => exact ⟨⟨_, .refl⟩, fun _ _ hnow => hnow⟩
  | succ fuel ih =>
    unfold run
    split
    · exact ⟨⟨_, .refl⟩, fun _ _ hnow => hnow⟩
    · split
      · exact ⟨⟨_, .refl⟩, fun _ _ hnow => hnow⟩
      · next u hu =>
        obtain ⟨⟨new, hturn⟩, hby⟩ := exists_turn_step? hu
        obtain ⟨⟨notes, hturns⟩, hlater⟩ := ih u
        exact ⟨⟨_, hturn.turns.trans hturns⟩,
          fun time htime hnow => hlater time htime (hby time htime hnow)⟩

theorem exists_turns_settle (t : Timeline) : ∃ notes, Turns t notes t.settle :=
  (exists_turns_run _ _ _ t).1

theorem exists_turns_sleep (t : Timeline) (ms : Nat) : ∃ notes, Turns t notes (t.sleep ms) := by
  obtain ⟨⟨notes, hslept⟩, hby⟩ :=
    exists_turns_run (fun _ => false) (some (t.now + ms)) fuel t
  exact ⟨_, hslept.tail (.elapse (t.now + ms) (hby _ rfl (Nat.le_add_right ..)))⟩

theorem exists_turns_finish (t : Timeline) : ∃ notes, Turns t notes t.finish := by
  obtain ⟨⟨waited, hwaited⟩, -⟩ :=
    exists_turns_run (fun u => u.poller.hasEnded t.poller.currentNumber) none fuel t
  obtain ⟨settled, hsettled⟩ := exists_turns_settle
    (t.run (fun u => u.poller.hasEnded t.poller.currentNumber) none fuel)
  exact ⟨_, hwaited.trans hsettled⟩

end Timeline

end TaskDesk
