import TaskDesk.Proofs.Clock.Agenda
import TaskDesk.Watch

/-!
# Every order of what happens to a watch

A watch goes on when its time has come. It may be stopped from outside at any moment, also while
the call of a tick is on its way, and the world may change at any moment: time passes, the backend
gets other answers ready, the credentials change. The notes say which calls were made, how they
ended, what was sent and what the front end was told.

## Main definitions

- `WatchNote` — what an observer of a watch notes
- `WatchNote.results`, `WatchNote.tales` — how the calls ended, and what was told
- `Watch.Turn`, `Watch.Turns` — one step of a watch in any order, and some steps

## Main results

- `Watch.exists_turns_run` — the steps that the clock chooses are turns
- `Watch.exists_turns_sleep`, `Watch.exists_turns_finish` — so is what the operator waits for
-/

namespace TaskDesk

/-- What an observer of a watch notes. -/
inductive WatchNote where
  /-- A tick asks for the state of the task. -/
  | asked
  /-- That is how it ended. -/
  | answered (result : Except ApiError TaskRecord)
  | sent (attempt : Attempt)
  | told (event : Event)
  /-- The watch was stopped from outside. -/
  | stopped
  /-- The world changed. -/
  | changed

namespace WatchNote

/-- The watch did it. -/
def isOwn : WatchNote → Bool
  | stopped | changed => false
  | _ => true

/-- A tick asked for the state of the task. -/
def isAsk : WatchNote → Bool
  | asked => true
  | _ => false

/-- How a call ended, if one did. -/
def result? : WatchNote → Option (Except ApiError TaskRecord)
  | answered result => some result
  | _ => none

/-- What the front end was told, if it was told something. -/
def tale? : WatchNote → Option Event
  | told event => some event
  | _ => none

/-- How the calls ended, in their order. -/
def results (notes : List WatchNote) : List (Except ApiError TaskRecord) :=
  notes.filterMap result?

/-- What the front end was told, in its order. -/
def tales (notes : List WatchNote) : List Event :=
  notes.filterMap tale?

theorem results_append (notes new : List WatchNote) :
    results (notes ++ new) = results notes ++ results new :=
  List.filterMap_append ..

theorem tales_append (notes new : List WatchNote) :
    tales (notes ++ new) = tales notes ++ tales new :=
  List.filterMap_append ..

/-- What is noted when a call ends and the front end is told about it. -/
def heard (result : Except ApiError TaskRecord) (events : List Event) : List WatchNote :=
  .answered result :: events.map .told

theorem results_heard (result : Except ApiError TaskRecord) (events : List Event) :
    results (heard result events) = [result] := by
  have hnone : results (events.map .told) = [] := by
    simp [results, result?]
  exact congrArg (result :: ·) hnone

theorem tales_heard (result : Except ApiError TaskRecord) (events : List Event) :
    tales (heard result events) = events := by
  have hall : tales (events.map .told) = events := by
    simp [tales, List.filterMap_map, Function.comp_def, tale?]
  exact hall

theorem countP_isAsk_heard (result : Except ApiError TaskRecord) (events : List Event) :
    (heard result events).countP isAsk = 0 := by
  simp [heard, isAsk, List.countP_map, Function.comp_def]

theorem stopped_not_mem_heard (result : Except ApiError TaskRecord) (events : List Event) :
    stopped ∉ heard result events := by
  simp [heard]

theorem asked_not_mem_heard (result : Except ApiError TaskRecord) (events : List Event) :
    asked ∉ heard result events := by
  simp [heard]

end WatchNote

namespace Watch

variable {κ : Type}

/-- What the next step of an activity is noted as. -/
def notes (w : Watch κ) : WatchActivity → List WatchNote
  | .tick run => if (w.poller.beginTick? run w.world.now).isSome then [.asked] else []
  | .call (.landed (.tick _) outcome) =>
    [.answered (outcome.bind (ApiCall.answer (.generationTask w.kind w.id)))]
  | _ => []

/-- What was sent and told since. -/
def news (w u : Watch κ) : List WatchNote :=
  (u.world.attempts.drop w.world.attempts.length).map .sent ++
    (u.world.events.drop w.world.events.length).map .told

/-- A step of the watch is no change from outside. -/
theorem changed_not_mem_own (w u : Watch κ) (a : WatchActivity) :
    .changed ∉ w.notes a ++ w.news u := by
  have hnotes : .changed ∉ w.notes a := by
    unfold notes
    split
    · split <;> simp
    · simp
    · simp
  have hnews : .changed ∉ w.news u := by
    simp only [news, List.mem_append, List.mem_map, not_or, not_exists, not_and]
    refine ⟨fun _ _ h => ?_, fun _ _ h => ?_⟩ <;> cases h
  exact fun hmem => (List.mem_append.mp hmem).elim hnotes hnews

variable [Vault κ]

/-- One step of a watch, and what is noted about it. -/
inductive Turn (w : Watch κ) : List WatchNote → Watch κ → Prop
  /-- The activity that is going on takes its next step. -/
  | goOn {a : WatchActivity} (h : w.running = some a) :
      Turn w (w.notes a ++ w.news ({ w with running := none }.step a))
        ({ w with running := none }.step a)
  /-- An activity that waits goes on, at its time or later. -/
  | takeUp (before : List (Agenda.Entry WatchActivity)) {e : Agenda.Entry WatchActivity}
      {after : List (Agenda.Entry WatchActivity)} (h : w.running = none)
      (hagenda : w.agenda = before ++ e :: after) :
      Turn w []
        { w with
          world := { w.world with now := max w.world.now e.due }
          agenda := before ++ after
          running := some e.job }
  | stop : Turn w [.stopped] w.stop
  /-- The clock, the backend, the credentials or the events of others change. -/
  | outside (world : World κ) : Turn w [.changed] { w with world }

/-- Some steps, and all that is noted about them, in order. -/
inductive Turns (w : Watch κ) : List WatchNote → Watch κ → Prop
  | refl : Turns w [] w
  | tail {u v : Watch κ} {notes new : List WatchNote} (h : Turns w notes u)
      (hturn : Turn u new v) : Turns w (notes ++ new) v

theorem Turns.trans {w u v : Watch κ} {notes others : List WatchNote} (h : Turns w notes u)
    (hothers : Turns u others v) : Turns w (notes ++ others) v := by
  induction hothers with
  | refl => rw [List.append_nil]; exact h
  | tail _ hturn ih => rw [← List.append_assoc]; exact .tail ih hturn

theorem Turn.turns {w u : Watch κ} {new : List WatchNote} (h : Turn w new u) : Turns w new u :=
  .tail .refl h

/-! ## What the clock chooses -/

theorem exists_turn_next? {limit : Option Nat} {w u : Watch κ} (h : w.next? limit = some u) :
    ∃ new, Turn w new u := by
  unfold next? at h
  split at h
  · next a ha =>
    obtain rfl := Option.some.inj h
    exact ⟨_, .goOn ha⟩
  · next hnone =>
    split at h
    · next e rest hdue =>
      obtain rfl := Option.some.inj h
      obtain ⟨⟨before, after, hagenda, rfl⟩, -⟩ := Agenda.eq_append_of_dueBy? hdue
      exact ⟨_, .takeUp before hnone hagenda⟩
    · cases h

/-- The steps that the clock chooses are turns. -/
theorem exists_turns_run (goal : Watch κ → Bool) (limit : Option Nat) (fuel : Nat)
    (w : Watch κ) : ∃ notes, Turns w notes (w.run goal limit fuel) := by
  induction fuel generalizing w with
  | zero => exact ⟨_, .refl⟩
  | succ fuel ih =>
    unfold run
    split
    · exact ⟨_, .refl⟩
    · split
      · exact ⟨_, .refl⟩
      · next u hu =>
        obtain ⟨new, hturn⟩ := exists_turn_next? hu
        obtain ⟨notes, hturns⟩ := ih u
        exact ⟨_, hturn.turns.trans hturns⟩

theorem exists_turns_sleep (w : Watch κ) (ms : Nat) : ∃ notes, Turns w notes (w.sleep ms) := by
  obtain ⟨slept, hslept⟩ := exists_turns_run (fun _ => false) (some (w.world.now + ms)) fuel w
  exact ⟨_, hslept.tail (.outside _)⟩

theorem exists_turns_finish (w : Watch κ) : ∃ notes, Turns w notes w.finish := by
  obtain ⟨waited, hwaited⟩ := exists_turns_run hasEnded none fuel w
  obtain ⟨settled, hsettled⟩ :=
    exists_turns_run (fun _ => false) (some (w.await none).world.now) fuel (w.await none)
  exact ⟨_, hwaited.trans hsettled⟩

end Watch

end TaskDesk
