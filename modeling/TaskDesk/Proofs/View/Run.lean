import TaskDesk.Proofs.View.Reaction

/-!
# Runs of a list view

A run is a list of messages that a view takes one after the other, from one of the states that a
view can begin with.

## Main definitions

- `ListState.Opened` — the states that a view can begin with
- `ListState.run` — the state after some messages
- `ListState.runEffects` — all effects of some messages, in order

## Main results

- `ListState.reaction_update` — an open view reacts, a closed one stays as it is
- `ListState.run_induction` — what every message keeps holds after every run
- `ListState.mode_run` — who pages the list never changes
- `ListState.disposed_run_iff` — a view is closed exactly if it was told to
-/

namespace TaskDesk.ListState

/-- The states that a list view can begin with. -/
inductive Opened : ListState → Prop
  | initial : Opened initial
  | ofMode (mode : PagingMode) (pageSize : Nat) : Opened (ofMode mode pageSize)
  | ofQuery (mode : PagingMode) (query : ListQuery) : Opened (ofQuery mode query)

/-- Every view begins with a query. -/
theorem Opened.exists_ofQuery {s : ListState} (h : s.Opened) :
    ∃ mode query, s = ListState.ofQuery mode query := by
  cases h with
  | initial => exact ⟨.server, {}, rfl⟩
  | ofMode mode pageSize => exact ⟨mode, { size := pageSize }, rfl⟩
  | ofQuery mode query => exact ⟨mode, query, rfl⟩

/-- The state after some messages. -/
def run (s : ListState) (ms : List Message) : ListState :=
  ms.foldl (fun s m => (s.update m).1) s

/-- The effects of some messages, in order. -/
def runEffects : ListState → List Message → List Effect
  | _, [] => []
  | s, m :: ms => (s.update m).2 ++ runEffects (s.update m).1 ms

@[simp] theorem run_nil (s : ListState) : s.run [] = s :=
  rfl

@[simp] theorem run_cons (s : ListState) (m : Message) (ms : List Message) :
    s.run (m :: ms) = (s.update m).1.run ms :=
  rfl

@[simp] theorem run_concat (s : ListState) (ms : List Message) (m : Message) :
    s.run (ms ++ [m]) = ((s.run ms).update m).1 := by
  rw [run, List.foldl_append]; rfl

/-- What every message keeps holds after every run. -/
theorem run_induction {P : ListState → Prop} (hstep : ∀ s m, P s → P (s.update m).1)
    {s : ListState} (hs : P s) (ms : List Message) : P (s.run ms) := by
  induction ms generalizing s with
  | nil => exact hs
  | cons m ms ih => exact ih (hstep s m hs)

/-- A closed view stays as it is and asks for nothing. -/
theorem update_of_disposed {s : ListState} (h : s.disposed = true) (m : Message) :
    s.update m = (s, []) := by
  rw [update, if_pos h]

theorem reaction_update {s : ListState} (h : s.disposed = false) (m : Message) :
    s.Reaction m (s.update m).1 (s.update m).2 := by
  have hopen : s.update m = s.react m := by simp [update, h]
  rw [hopen]
  exact s.reaction_react m

theorem Reaction.mode_eq {s t : ListState} {m : Message} {effects : List Effect}
    (h : s.Reaction m t effects) : t.mode = s.mode := by
  cases h with
  | settled | corrected => exact load_mode _ _
  | _ => rfl

theorem Reaction.disposed_iff {s t : ListState} {m : Message} {effects : List Effect}
    (h : s.Reaction m t effects) (hs : s.disposed = false) : t.disposed = true ↔ m = .disposed := by
  cases h with
  | closed => exact iff_of_true rfl rfl
  | marked _ hd | turned _ hd | fetched _ hd => exact iff_of_false (by simp [hs]) hd
  | settled | corrected => exact iff_of_false (by simp [hs]) nofun
  | failed | rejected => exact iff_of_false (by simp [hs]) nofun

theorem mode_update (s : ListState) (m : Message) : (s.update m).1.mode = s.mode := by
  cases h : s.disposed with
  | true => rw [update_of_disposed h]
  | false => exact (reaction_update h m).mode_eq

@[simp] theorem mode_run (s : ListState) (ms : List Message) : (s.run ms).mode = s.mode :=
  run_induction (P := fun t => t.mode = s.mode) (fun t m ht => (mode_update t m).trans ht) rfl ms

theorem disposed_update_iff (s : ListState) (m : Message) :
    (s.update m).1.disposed = true ↔ s.disposed = true ∨ m = .disposed := by
  cases h : s.disposed with
  | true => simp [update_of_disposed h, h]
  | false => simpa using (reaction_update h m).disposed_iff h

/-- A view is closed after a run exactly if it was before or was told to close. -/
theorem disposed_run_iff (s : ListState) (ms : List Message) :
    (s.run ms).disposed = true ↔ s.disposed = true ∨ .disposed ∈ ms := by
  induction ms generalizing s with
  | nil => simp
  | cons m ms ih =>
    rw [run_cons, ih, disposed_update_iff, List.mem_cons, or_assoc, eq_comm (a := m)]

theorem Opened.disposed {s : ListState} (h : s.Opened) : s.disposed = false := by
  obtain ⟨mode, query, rfl⟩ := h.exists_ofQuery
  rfl

/-- A view that began open is closed exactly if it was told to close. -/
theorem Opened.disposed_run_iff {s : ListState} (h : s.Opened) (ms : List Message) :
    (s.run ms).disposed = true ↔ .disposed ∈ ms := by
  rw [ListState.disposed_run_iff, h.disposed]
  simp

end TaskDesk.ListState
