import Mathlib.Algebra.Group.Nat.Defs
import TaskDesk.Number.Binary64

/-!
# Whole numbers of the format

A whole number of at most 53 bits has a mantissa of its own in the format, so nothing is rounded
when it becomes a `binary64` number, and its whole part is the number again. The first whole number
that is rounded is `2 ^ 53 + 1`.

## Main results

- `Binary64.ofNat_eq` — the mantissa and the exponent of a whole number of at most 53 bits
- `Binary64.truncate_ofInt` — up to `2 ^ 53` a whole number is what it was
-/

namespace TaskDesk.Binary64

/-- The parts of a quotient whose mantissa is not rounded up to one bit more. -/
theorem ofQuotient?_eq {negative : Bool} {num den m : Nat} {e : Int} {parts : Nat × Nat}
    (hnonzero : ¬ (num = 0 ∨ den = 0)) (he : exponentFor num den = e)
    (hparts : scaled num den e = parts) (hm : roundHalfEven parts.1 parts.2 = m)
    (hlong : ¬ m = Nat.pow 2 53) (hfinite : ¬ e > maxExponent) :
    ofQuotient? negative num den = some ⟨negative, m, e⟩ := by
  unfold ofQuotient?
  rw [if_neg hnonzero, he]
  dsimp only
  rw [hparts, hm, if_neg hlong]
  exact if_neg hfinite

/-! ## Shifting a whole number -/

section Shift

variable {n : Nat} (hpos : n ≠ 0) (h : n < 2 ^ 53)
include hpos h

theorem log2_le : n.log2 ≤ 52 := by
  have hlog : n.log2 < 53 := (Nat.log2_lt hpos).mpr h
  omega

/-- Shifted so that its first bit is the 53rd one, a whole number has 53 bits. -/
theorem shifted_mem : 2 ^ 52 ≤ n * 2 ^ (52 - n.log2) ∧ n * 2 ^ (52 - n.log2) < 2 ^ 53 := by
  have hlog := log2_le hpos h
  constructor
  · calc 2 ^ 52 = 2 ^ n.log2 * 2 ^ (52 - n.log2) := by rw [← Nat.pow_add]; congr 1; omega
      _ ≤ n * 2 ^ (52 - n.log2) := Nat.mul_le_mul_right _ (Nat.log2_self_le hpos)
  · calc n * 2 ^ (52 - n.log2) < 2 ^ (n.log2 + 1) * 2 ^ (52 - n.log2) :=
          Nat.mul_lt_mul_of_pos_right Nat.lt_log2_self (Nat.two_pow_pos _)
      _ = 2 ^ 53 := by rw [← Nat.pow_add]; congr 1; omega

theorem scaled_one : scaled n 1 ((n.log2 : Int) - 52) = (n * 2 ^ (52 - n.log2), 1) := by
  have hlog := log2_le hpos h
  have hdown : (-((n.log2 : Int) - 52)).toNat = 52 - n.log2 := by omega
  have hup : ((n.log2 : Int) - 52).toNat = 0 := by omega
  simp only [scaled, hdown, hup, Nat.pow_eq, Nat.pow_zero, Nat.mul_one]

theorem exponentFor_one : exponentFor n 1 = (n.log2 : Int) - 52 := by
  have hone : (1 : Nat).log2 = 0 := by decide
  have hguess : (n.log2 : Int) - ((1 : Nat).log2 : Int) - 52 = (n.log2 : Int) - 52 := by
    rw [hone]
    omega
  have hnot : ¬ n * 2 ^ (52 - n.log2) < 1 * Nat.pow 2 52 := by
    rw [Nat.one_mul, Nat.pow_eq]
    exact Nat.not_lt.mpr (shifted_mem hpos h).1
  simp only [exponentFor, hguess, scaled_one hpos h, if_neg hnot, minExponent]
  omega

/-- A whole number of at most 53 bits is shifted, not rounded. -/
theorem ofNat_eq : ofNat n = ⟨false, n * 2 ^ (52 - n.log2), (n.log2 : Int) - 52⟩ := by
  have hlog := log2_le hpos h
  have hround : roundHalfEven (n * 2 ^ (52 - n.log2)) 1 = n * 2 ^ (52 - n.log2) := by
    simp [roundHalfEven, Nat.mod_one]
  have hlong : ¬ n * 2 ^ (52 - n.log2) = Nat.pow 2 53 := Nat.ne_of_lt (shifted_mem hpos h).2
  have hfinite : ¬ (n.log2 : Int) - 52 > maxExponent := by
    rw [maxExponent]
    omega
  rw [ofNat, ofQuotient?_eq (by omega) (exponentFor_one hpos h) (scaled_one hpos h) hround hlong
    hfinite]
  rfl

theorem fraction_ofNat : (ofNat n).fraction = (n * 2 ^ (52 - n.log2), 2 ^ (52 - n.log2)) := by
  have hlog := log2_le hpos h
  have hdown : (-((n.log2 : Int) - 52)).toNat = 52 - n.log2 := by omega
  have hup : ((n.log2 : Int) - 52).toNat = 0 := by omega
  rw [ofNat_eq hpos h]
  simp only [fraction, scaled, Int.neg_neg, hdown, hup, Nat.pow_eq, Nat.pow_zero, Nat.mul_one,
    Nat.one_mul]

end Shift

/-! ## Whole parts -/

/-- Up to `2 ^ 53` a natural number is not negative, and its whole part is the number. -/
theorem whole_ofNat {n : Nat} (h : n ≤ 2 ^ 53) :
    (ofNat n).negative = false ∧ (ofNat n).wholePart = n := by
  by_cases hzero : n = 0
  · subst hzero
    decide +kernel
  by_cases hlast : n = 2 ^ 53
  · subst hlast
    decide +kernel
  have hlt : n < 2 ^ 53 := Nat.lt_of_le_of_ne h hlast
  constructor
  · rw [ofNat_eq hzero hlt]
  · rw [wholePart, fraction_ofNat hzero hlt]
    exact Nat.mul_div_cancel n (Nat.two_pow_pos _)

@[simp] theorem negative_neg (x : Binary64) : x.neg.negative = !x.negative :=
  rfl

@[simp] theorem wholePart_neg (x : Binary64) : x.neg.wholePart = x.wholePart :=
  rfl

@[simp] theorem ofInt_natCast (n : Nat) : ofInt n = ofNat n := by
  have hnot : ¬ (n : Int) < 0 := by omega
  rw [ofInt, if_neg hnot, Int.natAbs_natCast]

/-- Up to `2 ^ 53` a whole number is what it was. -/
theorem truncate_ofInt {i : Int} (h : i.natAbs ≤ 2 ^ 53) : (ofInt i).truncate = i := by
  obtain ⟨hsign, hwhole⟩ := whole_ofNat h
  by_cases hneg : i < 0
  · rw [ofInt, if_pos hneg, truncate, negative_neg, wholePart_neg, hsign, hwhole, Bool.not_false,
      if_pos rfl]
    omega
  · rw [ofInt, if_neg hneg, truncate, hsign, hwhole, if_neg Bool.false_ne_true]
    omega

/-- The next whole number is rounded. -/
example : (ofInt (2 ^ 53 + 1)).truncate = 2 ^ 53 := by decide +kernel

end TaskDesk.Binary64
