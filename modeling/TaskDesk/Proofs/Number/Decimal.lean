import Mathlib.Algebra.Group.Nat.Defs
import TaskDesk.Number.Shortest
import TaskDesk.Proofs.Text.Numeral

/-!
# Decimal forms

A decimal form loses the zeros at the end of its digits. In plain notation it is written with the
point among the digits, or with zeros up to the point. For a number of hundredths that is the whole
part, and behind a point the tenth and the hundredth unless the rest is zero.

## Main definitions

- `Decimal.twoPlaces` — a number of hundredths, written with at most two decimals

## Main results

- `Decimal.stripZeros_mul_pow` — zeros at the end are moved into the power of ten
- `DecimalStyle.writeMagnitude_hundredths` — how hundredths without zeros at the end are written
-/

namespace TaskDesk

/-- A number of hundredths, written with at most two decimals. -/
def Decimal.twoPlaces (m : Nat) : String :=
  let whole := toString (m / 100)
  if m % 100 = 0 then whole
  else if m % 10 = 0 then whole ++ "." ++ toString (m / 10 % 10)
  else whole ++ "." ++ toString (m / 10 % 10) ++ toString (m % 10)

/-! ## Zeros at the end -/

namespace Decimal

theorem stripZeros_of_ne {digits : Nat} (hlast : digits % 10 ≠ 0) (power : Int) :
    stripZeros digits power = ⟨digits, power⟩ := by
  have hdigits : digits ≠ 0 := by
    rintro rfl
    exact hlast rfl
  rw [stripZeros, dif_neg hdigits, if_neg hlast]

theorem stripZeros_of_eq {digits : Nat} (hdigits : digits ≠ 0) (hlast : digits % 10 = 0)
    (power : Int) : stripZeros digits power = stripZeros (digits / 10) (power + 1) := by
  rw [stripZeros, dif_neg hdigits, if_pos hlast]

theorem stripZeros_mul_pow {digits : Nat} (hdigits : digits ≠ 0) (power : Int) (k : Nat) :
    stripZeros (digits * 10 ^ k) power = stripZeros digits (power + k) := by
  induction k generalizing power with
  | zero => simp
  | succ k ih =>
    have hzero : digits * 10 ^ (k + 1) ≠ 0 :=
      Nat.mul_ne_zero hdigits (Nat.ne_of_gt (Nat.pow_pos (by decide : 0 < 10)))
    rw [Nat.pow_succ, ← Nat.mul_assoc] at hzero ⊢
    rw [stripZeros_of_eq hzero (Nat.mul_mod_left _ 10), Nat.mul_div_cancel _ (by decide), ih]
    congr 1
    push_cast
    omega

/-- What is dropped are zeros. -/
theorem exists_stripZeros {digits : Nat} (hdigits : digits ≠ 0) (power : Int) :
    ∃ d k : Nat, stripZeros digits power = ⟨d, power + k⟩ ∧ digits = d * 10 ^ k := by
  induction digits using Nat.strongRecOn generalizing power with
  | ind digits ih =>
    by_cases hlast : digits % 10 = 0
    · obtain ⟨d, k, hstrip, hdrop⟩ := ih (digits / 10) (by omega) (by omega) (power + 1)
      refine ⟨d, k + 1, ?_, ?_⟩
      · rw [stripZeros_of_eq hdigits hlast, hstrip]
        congr 1
        push_cast
        omega
      · rw [Nat.pow_succ, ← Nat.mul_assoc, ← hdrop]
        omega
    · exact ⟨digits, 0, by simp [stripZeros_of_ne hlast], by simp⟩

end Decimal

/-! ## Writing -/

namespace DecimalStyle

theorem toString_mul_pow {n : Nat} (hn : 0 < n) (k : Nat) :
    toString (n * 10 ^ k) = toString n ++ zeros k := by
  induction k with
  | zero => simp [zeros]
  | succ k ih =>
    have hpos : 0 < n * 10 ^ k := Nat.mul_pos hn (Nat.pow_pos (by decide))
    calc
      toString (n * 10 ^ (k + 1)) = toString (10 * (n * 10 ^ k) + 0) := by
        congr 1
        rw [Nat.pow_succ, ← Nat.mul_assoc, Nat.mul_comm]
        rfl
      _ = toString (n * 10 ^ k) ++ "0" := Text.toString_append_digit hpos (by decide)
      _ = toString n ++ (zeros k ++ "0") := by rw [ih, String.append_assoc]
      _ = toString n ++ zeros (k + 1) := by
        rw [zeros, zeros, List.replicate_succ', String.ofList_append]

section Plain

variable {style : DecimalStyle} (hleast : style.leastPoint ≤ 1) {d : Decimal} (hd : d.digits ≠ 0)
include hleast hd

/-- A whole number is written with its zeros. -/
theorem writeMagnitude_whole (hplain : style.pointZero = false) {k : Nat} (hpower : d.power = k)
    (hgreatest : (toString (d.digits * 10 ^ k)).length ≤ style.greatestPoint) :
    style.writeMagnitude d = toString (d.digits * 10 ^ k) := by
  have hwritten := toString_mul_pow (Nat.pos_of_ne_zero hd) k
  have hpos := Text.length_toString_pos d.digits
  have hzeros : ((toString d.digits).length + k - (toString d.digits).length : Int).toNat = k := by
    omega
  rw [hwritten, String.length_append, zeros, String.length_ofList, List.length_replicate]
    at hgreatest
  push_cast at hgreatest
  unfold writeMagnitude
  simp only [hplain, hpower]
  rw [if_neg hd, if_pos ⟨by omega, by omega⟩, if_pos (by omega), hzeros, hwritten,
    if_neg Bool.false_ne_true, String.append_empty]

/-- With the point among the digits a number is written in two parts. -/
theorem writeMagnitude_parts {whole rest : String} (hdigits : toString d.digits = whole ++ rest)
    (hpower : d.power = -rest.length) (hwhole : 0 < whole.length) (hrest : 0 < rest.length)
    (hgreatest : whole.length ≤ style.greatestPoint) :
    style.writeMagnitude d = whole ++ "." ++ rest := by
  have hpoint : ((whole ++ rest).length : Int) + -rest.length = whole.length := by
    rw [String.length_append]
    push_cast
    omega
  unfold writeMagnitude
  simp only [hdigits, hpower, hpoint]
  rw [if_neg hd, if_pos ⟨by omega, hgreatest⟩, if_neg (by rw [String.length_append]; omega),
    if_pos (by omega), String.toList_append, Int.toNat_natCast, ← String.length_toList,
    List.take_left, List.drop_left, String.ofList_toList, String.ofList_toList]

end Plain

/-- Hundredths without zeros at the end are written with at most two decimals. -/
theorem writeMagnitude_hundredths {style : DecimalStyle} (hplain : style.pointZero = false)
    (hleast : style.leastPoint ≤ 1) {m : Nat} (hm : 100 ≤ m)
    (hgreatest : (toString (m / 100)).length ≤ style.greatestPoint) :
    style.writeMagnitude (Decimal.stripZeros m (-2)) = Decimal.twoPlaces m := by
  have hwhole := Text.length_toString_pos (m / 100)
  have htenth : m / 10 % 10 < 10 := Nat.mod_lt _ (by decide)
  have hhundredth : m % 10 < 10 := Nat.mod_lt _ (by decide)
  have htenths : toString (m / 10) = toString (m / 100) ++ toString (m / 10 % 10) := by
    rw [← Text.toString_append_digit (by omega) htenth]
    congr 1
    omega
  unfold Decimal.twoPlaces
  simp only
  split
  case isTrue hround =>
    obtain ⟨d, k, hstrip, hvalue⟩ := Decimal.exists_stripZeros (show m / 100 ≠ 0 by omega) 0
    have hd : d ≠ 0 := by
      rintro rfl
      omega
    rw [Decimal.stripZeros_of_eq (by omega) (by omega), Decimal.stripZeros_of_eq (by omega)
      (by omega), Nat.div_div_eq_div_mul, show (-2 : Int) + 1 + 1 = 0 from rfl, hstrip, hvalue]
    exact writeMagnitude_whole hleast hd hplain (Int.zero_add _) (hvalue ▸ hgreatest)
  case isFalse hround =>
    split
    case isTrue htens =>
      have hone := Text.length_toString_digit htenth
      rw [Decimal.stripZeros_of_eq (by omega) htens, Decimal.stripZeros_of_ne (by omega)]
      exact writeMagnitude_parts hleast (by simp only; omega) htenths (by rw [hone]; rfl)
        hwhole (by omega) hgreatest
    case isFalse htens =>
      have htwo : (toString (m / 10 % 10) ++ toString (m % 10)).length = 2 := by
        rw [String.length_append, Text.length_toString_digit htenth,
          Text.length_toString_digit hhundredth]
      have hdigits : toString m =
          toString (m / 100) ++ (toString (m / 10 % 10) ++ toString (m % 10)) := by
        rw [← String.append_assoc, ← htenths, ← Text.toString_append_digit (by omega) hhundredth]
        congr 1
        omega
      rw [Decimal.stripZeros_of_ne htens, String.append_assoc]
      exact writeMagnitude_parts hleast (by simp only; omega) hdigits (by rw [htwo]; rfl)
        hwhole (by omega) hgreatest

end DecimalStyle

end TaskDesk
