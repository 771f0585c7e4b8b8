/-!
# Numerals

A natural number is told by its decimal digits.

## Main results

- `Text.toString_append_digit` — a number is written like its tenth, with its last digit behind it
-/

namespace TaskDesk.Text

theorem toString_append_digit {n c : Nat} (hn : 0 < n) (hc : c < 10) :
    toString (10 * n + c) = toString n ++ toString c := by
  have hdigits := Nat.toDigits_append_toDigits (b := 10) (by decide) hn hc
  simp only [Nat.toString_eq_ofList_toDigits]
  rw [← hdigits, String.ofList_append]

theorem length_toString_pos (n : Nat) : 0 < (toString n).length := by
  rw [Nat.toString_eq_ofList_toDigits, String.length_ofList]
  exact Nat.length_toDigits_pos

theorem length_toString_digit {c : Nat} (hc : c < 10) : (toString c).length = 1 := by
  rw [Nat.toString_eq_ofList_toDigits, String.length_ofList, Nat.toDigits_of_lt_base hc]
  rfl

end TaskDesk.Text
