import Mathlib.Data.Set.Card
import Mathlib.Data.String.Basic
import TaskDesk.View.Selection

/-!
# Selections as sets

A selection is kept as a list, but it acts as a set: each identifier stands in it once, in its
order, and every change is a change of what is in it.

## Main definitions

- `Selection.Ordered` — the identifiers in their order, each once

## Main results

- `Selection.Ordered.nodup` — an ordered selection names each task once
- `Selection.Ordered.toggle`, `Selection.Ordered.toggleAll`, `Selection.Ordered.removeAll` — every
  change keeps the order
- `Selection.has_toggle`, `Selection.has_insertAll`, `Selection.has_removeAll` — what is ticked
  after a change
- `Selection.mark_eq_all_iff`, `Selection.mark_eq_none_iff`, `Selection.mark_eq_some_iff` — what the
  mark of a group says
- `Selection.Ordered.size_eq_ncard` — the size counts what is ticked
-/

namespace TaskDesk.Selection

/-! ## What is ticked -/

theorem has_iff_mem {s : Selection} {id : TaskId} : s.has id = true ↔ id ∈ s.ids := by
  simp [has]

theorem has_toggle (s : Selection) (id x : TaskId) :
    (s.toggle id).has x = if x = id then !s.has id else s.has x := by
  unfold toggle
  cases h : s.has id with
  | true => by_cases hx : x = id <;> simp [has_remove, hx]
  | false => by_cases hx : x = id <;> simp [has_insert, hx]

theorem has_removeAll (s : Selection) (ids : List TaskId) (x : TaskId) :
    (s.removeAll ids).has x = (s.has x && !ids.contains x) := by
  unfold removeAll
  induction ids generalizing s with
  | nil => simp
  | cons id ids ih =>
    rw [List.foldl_cons, ih, has_remove, List.contains_cons, Bool.not_or, ← Bool.and_assoc,
      Bool.and_comm (x != id)]
    rfl

theorem has_insertAll (s : Selection) (ids : List TaskId) (x : TaskId) :
    (s.insertAll ids).has x = (s.has x || ids.contains x) := by
  unfold insertAll
  induction ids generalizing s with
  | nil => simp
  | cons id ids ih =>
    rw [List.foldl_cons, ih, has_insert, List.contains_cons, ← Bool.or_assoc,
      Bool.or_comm (x == id)]

/-- The group control ticks nothing but shown tasks. -/
theorem has_of_has_toggleAll {s : Selection} {shown : List TaskId} {x : TaskId}
    (h : (s.toggleAll shown).has x = true) : s.has x = true ∨ x ∈ shown := by
  unfold toggleAll at h
  split at h
  · exact .inl h
  · split at h
    · rw [has_removeAll, Bool.and_eq_true] at h
      exact .inl h.1
    · rw [has_insertAll, Bool.or_eq_true] at h
      exact h.imp_right List.contains_iff_mem.mp

/-! ## The mark of a group -/

theorem mark_eq_none_iff {s : Selection} {shown : List TaskId} :
    s.mark shown = .none ↔ ∀ id ∈ shown, s.has id = false := by
  have hcount : shown.countP s.has = 0 ↔ ∀ id ∈ shown, s.has id = false := by
    rw [List.countP_eq_zero]
    simp only [Bool.not_eq_true]
  rw [← hcount, mark]
  split
  · next hzero => exact iff_of_true rfl hzero
  · next hzero =>
    refine iff_of_false ?_ hzero
    split <;> nofun

/-- Tasks that are shown twice are counted twice, on both sides. -/
theorem mark_eq_all_iff {s : Selection} {shown : List TaskId} :
    s.mark shown = .all ↔ shown ≠ [] ∧ ∀ id ∈ shown, s.has id = true := by
  have hcount : shown.countP s.has = shown.length ↔ ∀ id ∈ shown, s.has id = true :=
    List.countP_eq_length
  rw [← hcount, mark]
  split
  · next hzero =>
    refine iff_of_false nofun ?_
    rintro ⟨hne, hall⟩
    exact hne (List.length_eq_zero_iff.mp (hall.symm.trans hzero))
  · next hzero =>
    have hne : shown ≠ [] := by
      rintro rfl
      exact hzero rfl
    split
    · next hall => exact iff_of_true rfl ⟨hne, hall⟩
    · next hall => exact iff_of_false nofun fun h => hall h.2

theorem mark_eq_some_iff {s : Selection} {shown : List TaskId} :
    s.mark shown = .some ↔ (∃ id ∈ shown, s.has id = true) ∧ ∃ id ∈ shown, s.has id = false := by
  have hnone : s.mark shown ≠ .none ↔ ∃ id ∈ shown, s.has id = true := by
    rw [Ne, mark_eq_none_iff]
    simp
  have hall (h : shown ≠ []) : s.mark shown ≠ .all ↔ ∃ id ∈ shown, s.has id = false := by
    rw [Ne, mark_eq_all_iff]
    simp [h]
  constructor
  · intro h
    obtain ⟨id, hid, hhas⟩ := hnone.mp (by simp [h])
    exact ⟨⟨id, hid, hhas⟩, (hall (List.ne_nil_of_mem hid)).mp (by simp [h])⟩
  · rintro ⟨⟨id, hid, hhas⟩, hother⟩
    have h1 := hnone.mpr ⟨id, hid, hhas⟩
    have h2 := (hall (List.ne_nil_of_mem hid)).mpr hother
    cases hmark : s.mark shown with
    | none => exact absurd hmark h1
    | all => exact absurd hmark h2
    | some => rfl

/-! ## The order -/

/-- The identifiers stand in their order, each once. -/
def Ordered (s : Selection) : Prop :=
  s.ids.Pairwise (· < ·)

theorem ordered_empty : Ordered {} :=
  .nil

theorem Ordered.nodup {s : Selection} (h : s.Ordered) : s.ids.Nodup :=
  h.imp ne_of_lt

/-- As each identifier stands in it once, the size of a selection is how many tasks are ticked. -/
theorem Ordered.size_eq_ncard {s : Selection} (h : s.Ordered) :
    s.size = {id | s.has id = true}.ncard := by
  have hset : {id | s.has id = true} = ↑s.ids.toFinset := by
    ext id
    simp [has_iff_mem]
  rw [hset, Set.ncard_coe_finset, List.toFinset_card_of_nodup h.nodup]
  rfl

theorem pairwise_place (id : TaskId) {ids : List TaskId} (h : ids.Pairwise (· < ·)) :
    (place id ids).Pairwise (· < ·) := by
  induction ids with
  | nil => simp [place]
  | cons x ids ih =>
    obtain ⟨hx, hids⟩ := List.pairwise_cons.mp h
    simp only [place]
    split
    · exact h
    · next hne =>
      split
      · next hlt =>
        refine h.cons fun y hy => ?_
        rcases List.mem_cons.mp hy with rfl | hy
        · exact hlt
        · exact hlt.trans (hx y hy)
      · next hnot =>
        refine (ih hids).cons fun y hy => ?_
        rcases mem_place.mp hy with rfl | hy
        · exact lt_of_le_of_ne (not_lt.mp hnot) (Ne.symm hne)
        · exact hx y hy

theorem Ordered.insert {s : Selection} (h : s.Ordered) (id : TaskId) : (s.insert id).Ordered :=
  pairwise_place id h

theorem Ordered.remove {s : Selection} (h : s.Ordered) (id : TaskId) : (s.remove id).Ordered :=
  h.filter _

theorem Ordered.toggle {s : Selection} (h : s.Ordered) (id : TaskId) : (s.toggle id).Ordered := by
  unfold Selection.toggle
  split
  · exact h.remove id
  · exact h.insert id

theorem Ordered.removeAll {s : Selection} (h : s.Ordered) (ids : List TaskId) :
    (s.removeAll ids).Ordered :=
  List.foldlRecOn ids _ h fun _ hs id _ => Ordered.remove hs id

theorem Ordered.insertAll {s : Selection} (h : s.Ordered) (ids : List TaskId) :
    (s.insertAll ids).Ordered :=
  List.foldlRecOn ids _ h fun _ hs id _ => Ordered.insert hs id

theorem Ordered.toggleAll {s : Selection} (h : s.Ordered) (shown : List TaskId) :
    (s.toggleAll shown).Ordered := by
  unfold Selection.toggleAll
  split
  · exact h
  · split
    · exact h.removeAll shown
    · exact h.insertAll shown

end TaskDesk.Selection
