import Mathlib.Data.List.DropRight
import TaskDesk.Text.Blank

/-!
# Blanks in text

A text can be seen by any of its characters that is not blank. What is trimmed at the end of a text
is decided by its last piece that can be seen.

## Main results

- `Text.isBlank_append` — a text of blank pieces is blank
- `Text.trimEnd_append` — what is trimmed of two pieces
-/

namespace TaskDesk.Text

/-! ## Blank texts -/

theorem isBlank_eq_false_of_mem {s : String} {c : Char} (h : c ∈ s.toList)
    (hc : isBlankChar c = false) : isBlank s = false := by
  rw [isBlank, List.all_eq_false]
  exact ⟨c, h, by simp [hc]⟩

theorem isBlank_append (s t : String) : isBlank (s ++ t) = (isBlank s && isBlank t) := by
  rw [isBlank, String.toList_append, List.all_append]
  rfl

theorem isBlank_spaces (n : Nat) : isBlank (spaces n) := by
  rw [isBlank, spaces, String.toList_ofList, List.all_replicate]
  split <;> rfl

/-! ## Blanks at the end -/

theorem trimEnd_eq_rdropWhile (cs : List Char) : trimEnd cs = cs.rdropWhile isBlankChar :=
  rfl

theorem trimEnd_eq_nil_iff {cs : List Char} : trimEnd cs = [] ↔ cs.all isBlankChar := by
  rw [trimEnd_eq_rdropWhile, List.rdropWhile_eq_nil_iff, List.all_eq_true]

theorem mem_of_mem_trimEnd {c : Char} {cs : List Char} (h : c ∈ trimEnd cs) : c ∈ cs :=
  (List.rdropWhile_prefix isBlankChar cs).subset h

/-- What is before blanks at the end is trimmed, and what is before other text is not. -/
theorem trimEnd_append (xs ys : List Char) :
    trimEnd (xs ++ ys) = if ys.all isBlankChar then trimEnd xs else xs ++ trimEnd ys := by
  by_cases h : trimEnd ys = []
  · rw [if_pos (trimEnd_eq_nil_iff.mp h)]
    rw [trimEnd, List.reverse_eq_nil_iff] at h
    simp only [trimEnd, List.reverse_append, List.dropWhile_append, h, List.isEmpty_nil, if_true]
  · rw [if_neg (mt trimEnd_eq_nil_iff.mpr h)]
    rw [trimEnd, List.reverse_eq_nil_iff, ← List.isEmpty_iff] at h
    simp only [trimEnd, List.reverse_append, List.dropWhile_append, if_neg h, List.reverse_reverse]

end TaskDesk.Text
