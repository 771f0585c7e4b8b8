import Mathlib.Tactic.SplitIfs
import TaskDesk.Task.Status

/-!
# Statuses and their words

A status that was read from a word is written as the word for it. That is not the word it was read
from if there are several for it, but it is read as the same status.

## Main definitions

- `TaskStatus.IsParsed` — the status was read from a word

## Main results

- `TaskStatus.isParsed_iff` — a status was read from a word unless it is unknown by a known word
- `TaskStatus.IsParsed.parse_label` — the word for such a status is read as that status
- `TaskStatus.eq_of_label_eq` — such a status is told by its word
-/

namespace TaskDesk.TaskStatus

/-- The status was read from a word. -/
def IsParsed (status : TaskStatus) : Prop :=
  ∃ word, status = parse word

theorem label_of_known? {word : String} {status : TaskStatus} (h : known? word = some status) :
    known? status.label = some status := by
  simp only [known?] at h
  split_ifs at h <;> cases h <;> decide

theorem known?_ne_unknown {word other : String} : known? word ≠ some (.unknown other) := by
  intro h
  simp only [known?] at h
  split_ifs at h <;> cases h

theorem known?_of_parse {word other : String} (h : parse word = .unknown other) :
    known? other = none := by
  cases hknown : known? word with
  | none =>
    rw [parse, hknown, Option.getD_none] at h
    rwa [← TaskStatus.unknown.inj h]
  | some known =>
    rw [parse, hknown, Option.getD_some] at h
    rw [h] at hknown
    exact absurd hknown known?_ne_unknown

/-- A status was read from a word unless it is unknown by a word that spells a known one. -/
theorem isParsed_iff {status : TaskStatus} :
    status.IsParsed ↔ ∀ word, status = .unknown word → known? word = none := by
  constructor
  · intro h other hother
    obtain ⟨word, hword⟩ := h
    exact known?_of_parse (hword.symm.trans hother)
  · intro h
    cases status with
    | unknown word => exact ⟨word, by rw [parse, h word rfl, Option.getD_none]⟩
    | pending => exact ⟨"pending", by decide⟩
    | running => exact ⟨"running", by decide⟩
    | completed => exact ⟨"completed", by decide⟩
    | failed => exact ⟨"failed", by decide⟩
    | cancelled => exact ⟨"cancelled", by decide⟩

/-- The word for a status that was read is read as that status. -/
theorem IsParsed.parse_label {status : TaskStatus} (h : status.IsParsed) :
    parse status.label = status := by
  obtain ⟨word, hword⟩ := h
  cases hknown : known? word with
  | none =>
    rw [parse, hknown, Option.getD_none] at hword
    rw [hword, label, parse, hknown, Option.getD_none]
  | some known =>
    rw [parse, hknown, Option.getD_some] at hword
    rw [hword, parse, label_of_known? hknown, Option.getD_some]

theorem eq_of_label_eq {s t : TaskStatus} (hs : s.IsParsed) (ht : t.IsParsed)
    (h : s.label = t.label) : s = t := by
  rw [← hs.parse_label, ← ht.parse_label, h]

theorem eq_of_map_label_eq {s t : Option TaskStatus} (hs : ∀ status ∈ s, status.IsParsed)
    (ht : ∀ status ∈ t, status.IsParsed) (h : s.map label = t.map label) : s = t := by
  cases s with
  | none => exact (Option.map_eq_none_iff.mp h.symm).symm
  | some s =>
    obtain ⟨t, rfl, hlabel⟩ := Option.map_eq_some_iff.mp h.symm
    rw [eq_of_label_eq (hs s rfl) (ht t rfl) hlabel.symm]

end TaskDesk.TaskStatus
