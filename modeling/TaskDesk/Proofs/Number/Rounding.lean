import Mathlib.Algebra.Order.Field.Power
import Mathlib.Algebra.Order.Floor.Semifield
import Mathlib.Data.Int.Log
import Mathlib.Data.Rat.Floor
import Mathlib.Order.Interval.Set.OrdConnected
import Mathlib.Tactic.Linarith
import Mathlib.Tactic.NormNum
import Mathlib.Tactic.Positivity
import TaskDesk.Number.Shortest
import TaskDesk.Proofs.Number.Whole

/-!
# Rounded quotients

A number of the format stands for a rational number, and all the reals in a neighbourhood of it
round to it. A quotient of natural numbers that is a number of the format is not rounded; any other
one is rounded to a number whose neighbourhood it is in.

## Main definitions

- `Binary64.magnitude` — the number without its sign, as a rational number
- `Binary64.Normal` — the mantissa has all its bits
- `Binary64.covered` — the rational numbers that round to a number
- `Binary64.Rounds` — a number is what a rational number is rounded to

## Main results

- `Binary64.exponentFor_eq` — the exponent of a quotient is its binary logarithm
- `Binary64.Normal.ofQuotient?_of_eq` — a quotient that is a number of the format is that number
- `Binary64.exists_ofQuotient?` — a quotient in the range of the format is rounded
-/

namespace TaskDesk.Binary64

/-! ## Fractions -/

/-- A power moves from the denominator to the numerator if its exponent is negative. -/
theorem shifted_div (num den : Nat) {b : Nat} (hb : b ≠ 0) (k : Int) :
    ((num * b ^ (-k).toNat : Nat) : ℚ) / (den * b ^ k.toNat : Nat) = num / den / (b : ℚ) ^ k := by
  have hpower : (b : ℚ) ^ k = b ^ k.toNat / b ^ (-k).toNat := by
    rw [← zpow_natCast, ← zpow_natCast, ← zpow_sub₀ (Nat.cast_ne_zero.mpr hb)]
    congr 1
    omega
  push_cast
  rw [hpower, mul_div_mul_comm, div_div_eq_mul_div, mul_div_assoc]

theorem pos_of_div_pos {num den : Nat} (h : (0 : ℚ) < num / den) : 0 < num := by
  refine Nat.pos_of_ne_zero fun hzero => h.ne' ?_
  rw [hzero, Nat.cast_zero, zero_div]

theorem scaled_div (num den : Nat) (e : Int) :
    ((scaled num den e).1 : ℚ) / (scaled num den e).2 = num / den / 2 ^ e :=
  shifted_div num den two_ne_zero e

theorem scaled_den_pos (num : Nat) {den : Nat} (hden : 0 < den) (e : Int) :
    0 < (scaled num den e).2 :=
  Nat.mul_pos hden (Nat.two_pow_pos _)

/-! ## Binary logarithms -/

theorem le_log_iff {q : ℚ} (hq : 0 < q) (e : Int) : e ≤ Int.log 2 q ↔ (2 : ℚ) ^ e ≤ q := by
  rw [← Int.zpow_le_iff_le_log one_lt_two hq, Nat.cast_ofNat]

theorem log_lt_iff {q : ℚ} (hq : 0 < q) (e : Int) : Int.log 2 q < e ↔ q < (2 : ℚ) ^ e := by
  rw [← Int.lt_zpow_iff_log_lt one_lt_two hq, Nat.cast_ofNat]

/-- The lengths of numerator and denominator tell the binary logarithm, or one more. -/
theorem lt_div_lt {num den : Nat} (hnum : 0 < num) (hden : 0 < den) :
    (2 : ℚ) ^ ((num.log2 : Int) - den.log2 - 1) < num / den ∧
      (num : ℚ) / den < 2 ^ ((num.log2 : Int) - den.log2 + 1) := by
  have hdenPos : (0 : ℚ) < den := by exact_mod_cast hden
  have hnumLow : (2 : ℚ) ^ num.log2 ≤ num := by exact_mod_cast Nat.log2_self_le hnum.ne'
  have hnumHigh : (num : ℚ) < 2 ^ (num.log2 + 1) := by exact_mod_cast Nat.lt_log2_self
  have hdenLow : (2 : ℚ) ^ den.log2 ≤ den := by exact_mod_cast Nat.log2_self_le hden.ne'
  have hdenHigh : (den : ℚ) < 2 ^ (den.log2 + 1) := by exact_mod_cast Nat.lt_log2_self
  have hsplit (a b : Nat) : (2 : ℚ) ^ ((a : Int) - b) * 2 ^ b = 2 ^ a := by
    rw [← zpow_natCast, ← zpow_natCast, ← zpow_add₀ two_ne_zero, sub_add_cancel]
  constructor
  · rw [lt_div_iff₀ hdenPos]
    calc (2 : ℚ) ^ ((num.log2 : Int) - den.log2 - 1) * den
        < 2 ^ ((num.log2 : Int) - den.log2 - 1) * 2 ^ (den.log2 + 1) :=
          mul_lt_mul_of_pos_left hdenHigh (by positivity)
      _ = 2 ^ num.log2 := by rw [← hsplit num.log2 (den.log2 + 1)]; push_cast; ring_nf
      _ ≤ num := hnumLow
  · rw [div_lt_iff₀ hdenPos]
    calc (num : ℚ) < 2 ^ (num.log2 + 1) := hnumHigh
      _ = 2 ^ ((num.log2 : Int) - den.log2 + 1) * 2 ^ den.log2 := by
          rw [← hsplit (num.log2 + 1) den.log2]; push_cast; ring_nf
      _ ≤ 2 ^ ((num.log2 : Int) - den.log2 + 1) * den :=
          mul_le_mul_of_nonneg_left hdenLow (by positivity)

/-- At the exponent of a quotient its mantissa has 53 bits, unless that exponent is too small. -/
theorem exponentFor_eq {num den : Nat} (hnum : 0 < num) (hden : 0 < den) :
    exponentFor num den = max minExponent (Int.log 2 ((num : ℚ) / den) - 52) := by
  obtain ⟨hlow, hhigh⟩ := lt_div_lt hnum hden
  have hq : (0 : ℚ) < num / den := lt_trans (by positivity) hlow
  have hbits := (le_log_iff hq _).mpr hlow.le
  have hmore := (log_lt_iff hq _).mpr hhigh
  set guess : Int := (num.log2 : Int) - den.log2 - 52 with hguess
  have hden' : (0 : ℚ) < (scaled num den guess).2 := by
    exact_mod_cast scaled_den_pos num hden guess
  have hshort : (scaled num den guess).1 < (scaled num den guess).2 * Nat.pow 2 52 ↔
      Int.log 2 ((num : ℚ) / den) < (num.log2 : Int) - den.log2 := by
    rw [log_lt_iff hq, Nat.pow_eq]
    calc
      (scaled num den guess).1 < (scaled num den guess).2 * 2 ^ 52 ↔
          ((scaled num den guess).1 : ℚ) < 2 ^ 52 * (scaled num den guess).2 := by
        rw [mul_comm]; exact_mod_cast Iff.rfl
      _ ↔ (num : ℚ) / den / 2 ^ guess < 2 ^ 52 := by
        rw [← scaled_div, div_lt_iff₀ hden']
      _ ↔ (num : ℚ) / den < 2 ^ ((num.log2 : Int) - den.log2) := by
        rw [div_lt_iff₀ (by positivity), ← zpow_natCast, ← zpow_add₀ two_ne_zero, hguess]
        norm_num
  unfold exponentFor
  simp only [← hguess]
  congr 1
  by_cases hless : Int.log 2 ((num : ℚ) / den) < (num.log2 : Int) - den.log2
  · rw [if_pos (hshort.mpr hless)]
    omega
  · rw [if_neg (hshort.not.mpr hless)]
    omega

/-! ## Rounding to a whole number -/

/-- Rounding moves a fraction by at most a half, and by a half only to an even number. -/
theorem roundHalfEven_near (num : Nat) {den : Nat} (hden : 0 < den) :
    |(num : ℚ) / den - roundHalfEven num den| < 1 / 2 ∨
      |(num : ℚ) / den - roundHalfEven num den| = 1 / 2 ∧ roundHalfEven num den % 2 = 0 := by
  have hpos : (0 : ℚ) < den := by exact_mod_cast hden
  obtain ⟨rest, hrest⟩ : ∃ rest : ℚ, (num % den : Nat) / (den : ℚ) = rest := ⟨_, rfl⟩
  have hquotient : (num : ℚ) / den = (num / den : Nat) + rest := by
    rw [← hrest, div_eq_iff hpos.ne', add_mul, div_mul_cancel₀ _ hpos.ne']
    exact_mod_cast (Nat.div_add_mod' num den).symm
  have hless : 2 * (num % den) < den ↔ rest < 1 / 2 := by
    rw [← hrest, div_lt_iff₀ hpos, one_div, lt_inv_mul_iff₀ two_pos]
    exact_mod_cast Iff.rfl
  have hhalf : 2 * (num % den) = den ↔ rest = 1 / 2 := by
    rw [← hrest, div_eq_iff hpos.ne', one_div, eq_inv_mul_iff_mul_eq₀ two_ne_zero]
    exact_mod_cast Iff.rfl
  have hnonneg : 0 ≤ rest := hrest ▸ by positivity
  have hbelow : rest < 1 := by
    rw [← hrest, div_lt_one hpos]
    exact_mod_cast Nat.mod_lt num hden
  unfold roundHalfEven
  simp only [hless, hhalf, hquotient]
  split
  case isTrue h =>
    rw [add_sub_cancel_left, abs_of_nonneg hnonneg]
    exact h
  case isFalse h =>
    rw [not_or, not_and] at h
    push_cast
    rw [add_sub_add_left_eq_sub, abs_of_neg (by linarith)]
    obtain hhalf | hmore := (not_lt.mp h.1).eq_or_lt
    · have hodd := h.2 hhalf.symm
      exact .inr ⟨by linarith, by omega⟩
    · exact .inl (by linarith)

theorem abs_sub_roundHalfEven_le (num : Nat) {den : Nat} (hden : 0 < den) :
    |(num : ℚ) / den - roundHalfEven num den| ≤ 1 / 2 :=
  (roundHalfEven_near num hden).elim le_of_lt fun hhalf => hhalf.1.le

/-- A fraction of 53 bits is rounded to a number of 53 bits, or to the one after them. -/
theorem roundHalfEven_mem {n d : Nat} (hd : 0 < d) (hleast : (2 : ℚ) ^ 52 ≤ n / d)
    (hmost : (n : ℚ) / d < 2 ^ 53) :
    2 ^ 52 ≤ roundHalfEven n d ∧ roundHalfEven n d ≤ 2 ^ 53 := by
  have hclose := abs_le.mp (abs_sub_roundHalfEven_le n hd)
  constructor
  · have hlt : (2 : ℚ) ^ 52 < roundHalfEven n d + 1 := by linarith
    exact Nat.lt_succ_iff.mp (by exact_mod_cast hlt)
  · have hlt : (roundHalfEven n d : ℚ) < 2 ^ 53 + 1 := by linarith
    exact Nat.lt_succ_iff.mp (by exact_mod_cast hlt)

/-! ## Numbers of the format -/

/-- The number without its sign. -/
def magnitude (x : Binary64) : ℚ :=
  x.mantissa * 2 ^ x.exponent

/-- The mantissa has all its bits, and the exponent is one of the format. -/
structure Normal (x : Binary64) : Prop where
  le_mantissa : 2 ^ 52 ≤ x.mantissa
  mantissa_lt : x.mantissa < 2 ^ 53
  le_exponent : minExponent ≤ x.exponent
  exponent_le : x.exponent ≤ maxExponent

namespace Normal

variable {x : Binary64} (h : x.Normal)
include h

theorem zpow_le_magnitude : (2 : ℚ) ^ (x.exponent + 52) ≤ x.magnitude := by
  have hmantissa : (2 : ℚ) ^ 52 ≤ x.mantissa := by exact_mod_cast h.le_mantissa
  rw [magnitude, zpow_add₀ two_ne_zero, mul_comm, zpow_ofNat]
  exact mul_le_mul_of_nonneg_right hmantissa (by positivity)

theorem magnitude_lt_zpow : x.magnitude < (2 : ℚ) ^ (x.exponent + 53) := by
  have hmantissa : (x.mantissa : ℚ) < 2 ^ 53 := by exact_mod_cast h.mantissa_lt
  rw [magnitude, zpow_add₀ two_ne_zero, mul_comm, zpow_ofNat]
  exact mul_lt_mul_of_pos_left hmantissa (by positivity)

theorem magnitude_pos : 0 < x.magnitude :=
  lt_of_lt_of_le (by positivity) h.zpow_le_magnitude

theorem log_magnitude : Int.log 2 x.magnitude = x.exponent + 52 := by
  have hle := (le_log_iff h.magnitude_pos _).mpr h.zpow_le_magnitude
  have hlt := (log_lt_iff h.magnitude_pos _).mpr h.magnitude_lt_zpow
  omega

/-- A quotient that is a number of the format is that number. -/
theorem ofQuotient?_of_eq {num den : Nat} (hden : 0 < den) (heq : (num : ℚ) / den = x.magnitude) :
    ofQuotient? x.negative num den = some x := by
  have hnum : 0 < num := pos_of_div_pos (heq ▸ h.magnitude_pos)
  have hexponent : exponentFor num den = x.exponent := by
    rw [exponentFor_eq hnum hden, heq, h.log_magnitude, add_sub_cancel_right]
    exact max_eq_right h.le_exponent
  rcases hparts : scaled num den x.exponent with ⟨n, d⟩
  have hd : 0 < d := by simpa [hparts] using scaled_den_pos num hden x.exponent
  have hn : n = x.mantissa * d := by
    have hscaled := scaled_div num den x.exponent
    rw [hparts, heq, magnitude, mul_div_cancel_right₀ _ (by positivity),
      div_eq_iff (by exact_mod_cast hd.ne')] at hscaled
    exact_mod_cast hscaled
  have hround : roundHalfEven n d = x.mantissa := by
    simp [roundHalfEven, hn, hd]
  exact ofQuotient?_eq (by omega) hexponent hparts hround h.mantissa_lt.ne
    (not_lt.mpr h.exponent_le)

end Normal

/-! ## What rounds to a number -/

/-- The rational numbers of a neighbourhood, in its own unit. -/
def Neighbourhood.range (hood : Neighbourhood) : Set ℚ :=
  if hood.closed then Set.Icc hood.low hood.high else Set.Ioo hood.low hood.high

theorem Neighbourhood.ordConnected_range (hood : Neighbourhood) : hood.range.OrdConnected := by
  unfold range
  split
  · exact Set.ordConnected_Icc
  · exact Set.ordConnected_Ioo

theorem Neighbourhood.range_subset (hood : Neighbourhood) :
    hood.range ⊆ Set.Icc (hood.low : ℚ) hood.high := by
  unfold range
  split
  · exact subset_rfl
  · exact Set.Ioo_subset_Icc_self

/-- The rational numbers that round to a number. -/
def covered (x : Binary64) : Set ℚ :=
  {q | q / 2 ^ (x.exponent - 2) ∈ x.neighbourhood.range}

/-- What is between two numbers that round to `x` rounds to `x`. -/
theorem ordConnected_covered (x : Binary64) : x.covered.OrdConnected :=
  x.neighbourhood.ordConnected_range.preimage_mono fun _ _ hle =>
    div_le_div_of_nonneg_right hle (by positivity)

/-- In the unit of the neighbourhood a number is four times its multiple of `2 ^ exponent`. -/
theorem mul_zpow_mem_covered_iff (x : Binary64) (s : ℚ) :
    s * 2 ^ x.exponent ∈ x.covered ↔ 4 * s ∈ x.neighbourhood.range := by
  have hunit : s * 2 ^ x.exponent / (2 : ℚ) ^ (x.exponent - 2) = 4 * s := by
    rw [mul_div_assoc, ← zpow_sub₀ two_ne_zero, sub_sub_cancel, mul_comm]
    norm_num
  rw [covered, Set.mem_ofPred_eq, hunit]

/-- What differs from the mantissa by less than a half, or by a half if the mantissa is even, is
covered, but for the narrower gap below a power of two. -/
theorem Normal.mem_covered_of_near {x : Binary64} (h : x.Normal) {s : ℚ}
    (hnear : |s - x.mantissa| < 1 / 2 ∨ |s - x.mantissa| = 1 / 2 ∧ x.mantissa % 2 = 0)
    (hgap : x.mantissa = 2 ^ 52 → x.mantissa ≤ s) : s * 2 ^ x.exponent ∈ x.covered := by
  have hmantissa := h.le_mantissa
  have hlow : ((4 * x.mantissa - 2 : Nat) : ℚ) = 4 * x.mantissa - 2 := by
    rw [Nat.cast_sub (by omega)]
    push_cast
    rfl
  have hlower : ((4 * x.mantissa - 1 : Nat) : ℚ) = 4 * x.mantissa - 1 := by
    rw [Nat.cast_sub (by omega)]
    push_cast
    rfl
  rw [mul_zpow_mem_covered_iff]
  simp only [neighbourhood, Neighbourhood.range, beq_iff_eq, Nat.pow_eq]
  obtain heven | hodd := Nat.mod_two_eq_zero_or_one x.mantissa
  · have hclose : |s - x.mantissa| ≤ 1 / 2 := hnear.elim le_of_lt fun hhalf => hhalf.1.le
    rw [abs_le] at hclose
    rw [if_pos heven, Set.mem_Icc]
    push_cast
    refine ⟨?_, by linarith⟩
    split
    case isTrue hpower =>
      have hle := hgap hpower.1
      rw [hlower]
      linarith
    case isFalse =>
      rw [hlow]
      linarith
  · have hclose : |s - x.mantissa| < 1 / 2 := hnear.resolve_right (by omega)
    rw [abs_lt] at hclose
    rw [if_neg (by omega), if_neg (by omega), Set.mem_Ioo, hlow]
    push_cast
    exact ⟨by linarith, by linarith⟩

/-- What is at most a quarter below the least mantissa is covered. -/
theorem mem_covered_of_least {x : Binary64} (hleast : x.mantissa = 2 ^ 52) {s : ℚ}
    (hle : s ≤ 2 ^ 52) (hquarter : 2 ^ 52 - 1 / 4 ≤ s) : s * 2 ^ x.exponent ∈ x.covered := by
  have hlow : (x.neighbourhood.low : ℚ) ≤ 4 * 2 ^ 52 - 1 := by
    have hnat : x.neighbourhood.low ≤ 4 * 2 ^ 52 - 1 := by
      simp only [neighbourhood, hleast]
      split <;> omega
    norm_num at hnat ⊢
    exact_mod_cast hnat
  have hhigh : (x.neighbourhood.high : ℚ) = 4 * 2 ^ 52 + 2 := by
    simp only [neighbourhood, hleast]
    norm_num
  have hclosed : x.neighbourhood.closed = true := by simp [neighbourhood, hleast]
  rw [mul_zpow_mem_covered_iff, Neighbourhood.range, if_pos hclosed, Set.mem_Icc, hhigh]
  exact ⟨by linarith, by linarith⟩

/-- The number `x` is what `q` is rounded to. -/
structure Rounds (q : ℚ) (x : Binary64) : Prop where
  normal : x.Normal
  covers : q ∈ x.covered
  log_le : Int.log 2 q ≤ x.exponent + 52
  le_log : x.exponent + 51 ≤ Int.log 2 q

/-! ## Rounded quotients -/

/-- The parts of a quotient whose mantissa is rounded up to one bit more. -/
theorem ofQuotient?_eq_of_carry {negative : Bool} {num den : Nat} {e : Int} {parts : Nat × Nat}
    (hnonzero : ¬ (num = 0 ∨ den = 0)) (he : exponentFor num den = e)
    (hparts : scaled num den e = parts) (hm : roundHalfEven parts.1 parts.2 = Nat.pow 2 53)
    (hfinite : ¬ e + 1 > maxExponent) :
    ofQuotient? negative num den = some ⟨negative, Nat.pow 2 52, e + 1⟩ := by
  unfold ofQuotient?
  rw [if_neg hnonzero, he]
  dsimp only
  rw [hparts, hm, if_pos rfl]
  exact if_neg hfinite

/-- Shifted by the exponent of its logarithm, a number has 53 bits before the point. -/
theorem shifted_mem_of_log {q : ℚ} (hq : 0 < q) {e : Int} (he : Int.log 2 q = e + 52) :
    2 ^ 52 ≤ q / 2 ^ e ∧ q / 2 ^ e < 2 ^ 53 := by
  have hpos : (0 : ℚ) < 2 ^ e := by positivity
  constructor
  · rw [le_div_iff₀ hpos, ← zpow_ofNat, ← zpow_add₀ two_ne_zero]
    exact (le_log_iff hq _).mp (by omega)
  · rw [div_lt_iff₀ hpos, ← zpow_ofNat, ← zpow_add₀ two_ne_zero]
    exact (log_lt_iff hq _).mp (by omega)

section Shifted

variable (negative : Bool) {s : ℚ} {e : Int} (hlog : Int.log 2 (s * 2 ^ e) = e + 52)
  (hlow : minExponent ≤ e) (hhigh : e < maxExponent)
include hlog hlow hhigh

/-- A number of 53 bits is rounded to a mantissa of 53 bits. -/
theorem rounds_of_near {m : Nat} (hm : 2 ^ 52 ≤ m) (hlt : m < 2 ^ 53)
    (hnear : |s - m| < 1 / 2 ∨ |s - m| = 1 / 2 ∧ m % 2 = 0) (hleast : 2 ^ 52 ≤ s) :
    Rounds (s * 2 ^ e) ⟨negative, m, e⟩ := by
  have hnormal : Normal ⟨negative, m, e⟩ := ⟨hm, hlt, hlow, hhigh.le⟩
  have hgap : m = 2 ^ 52 → (m : ℚ) ≤ s := by
    rintro rfl
    exact_mod_cast hleast
  exact ⟨hnormal, hnormal.mem_covered_of_near hnear hgap, hlog.le, by rw [hlog]; simp only; omega⟩

/-- A number of 53 bits that is rounded to one of 54 gets the least mantissa of the next
exponent. -/
theorem rounds_of_carry (hhalf : 2 ^ 53 - 1 / 2 ≤ s) (hmost : s < 2 ^ 53) :
    Rounds (s * 2 ^ e) ⟨negative, 2 ^ 52, e + 1⟩ := by
  have hnormal : Normal ⟨negative, 2 ^ 52, e + 1⟩ :=
    ⟨le_rfl, by norm_num, (by omega : _ ≤ e + 1), (by omega : e + 1 ≤ _)⟩
  have hnext : s * 2 ^ e = s / 2 * 2 ^ (e + 1) := by
    rw [zpow_add_one₀ two_ne_zero]
    ring
  refine ⟨hnormal, ?_, by rw [hlog]; simp only; omega, by rw [hlog]; simp only; omega⟩
  rw [hnext]
  exact mem_covered_of_least rfl (by linarith) (by linarith)

end Shifted

/-- A quotient in the range of the format is rounded to a number that covers it. -/
theorem exists_ofQuotient? (negative : Bool) {num den : Nat} (hden : 0 < den)
    (hq : (0 : ℚ) < num / den) (hlow : minExponent + 52 ≤ Int.log 2 ((num : ℚ) / den))
    (hhigh : Int.log 2 ((num : ℚ) / den) < maxExponent + 52) :
    ∃ x, ofQuotient? negative num den = some x ∧ x.negative = negative ∧
      Rounds (num / den) x := by
  have hnum : 0 < num := pos_of_div_pos hq
  have hnonzero : ¬ (num = 0 ∨ den = 0) := by omega
  obtain ⟨e, he⟩ : ∃ e : Int, Int.log 2 ((num : ℚ) / den) = e + 52 :=
    ⟨_, (sub_add_cancel _ 52).symm⟩
  have hmin : minExponent ≤ e := by omega
  have hmax : e < maxExponent := by omega
  have hexponent : exponentFor num den = e := by
    rw [exponentFor_eq hnum hden, he]
    omega
  rcases hparts : scaled num den e with ⟨n, d⟩
  have hd : 0 < d := by simpa [hparts] using scaled_den_pos num hden e
  have hs : (n : ℚ) / d = num / den / 2 ^ e := by simpa [hparts] using scaled_div num den e
  have hvalue : (num : ℚ) / den = n / d * 2 ^ e := by
    rw [hs, div_mul_cancel₀ _ (by positivity)]
  obtain ⟨hleast, hmost⟩ := hs ▸ shifted_mem_of_log hq he
  obtain ⟨hroundLow, hroundHigh⟩ := roundHalfEven_mem hd hleast hmost
  rw [hvalue] at he ⊢
  by_cases hcarry : roundHalfEven n d = 2 ^ 53
  · have hclose := abs_le.mp (abs_sub_roundHalfEven_le n hd)
    rw [hcarry] at hclose
    push_cast at hclose
    exact ⟨_, ofQuotient?_eq_of_carry hnonzero hexponent hparts hcarry (by omega), rfl,
      rounds_of_carry negative he hmin hmax (by linarith) hmost⟩
  · exact ⟨_, ofQuotient?_eq hnonzero hexponent hparts rfl hcarry (by omega), rfl,
      rounds_of_near negative he hmin hmax hroundLow (lt_of_le_of_ne hroundHigh hcarry)
        (roundHalfEven_near n hd) hleast⟩

/-! ## Operations -/

/-- A number divided by a power of two: the mantissa stays. -/
def halved (x : Binary64) (k : Nat) : Binary64 :=
  { x with exponent := x.exponent - k }

theorem magnitude_halved (x : Binary64) (k : Nat) :
    (x.halved k).magnitude = x.magnitude / 2 ^ k := by
  simp only [magnitude, halved]
  rw [zpow_sub₀ two_ne_zero, zpow_natCast, mul_div_assoc]

theorem Normal.halved {x : Binary64} (h : x.Normal) {k : Nat} (hk : minExponent + k ≤ x.exponent) :
    (x.halved k).Normal where
  le_mantissa := h.le_mantissa
  mantissa_lt := h.mantissa_lt
  le_exponent := by
    simp only [Binary64.halved]
    omega
  exponent_le := by
    have hle := h.exponent_le
    simp only [Binary64.halved]
    omega

section OfNat

variable {n : Nat} (hpos : n ≠ 0) (h : n < 2 ^ 53)
include hpos h

theorem exponent_ofNat : (ofNat n).exponent = (n.log2 : Int) - 52 := by
  rw [ofNat_eq hpos h]

theorem normal_ofNat : (ofNat n).Normal := by
  have hlog := log2_le hpos h
  obtain ⟨hlow, hhigh⟩ := shifted_mem hpos h
  rw [ofNat_eq hpos h]
  exact ⟨hlow, hhigh, (by omega : -1074 ≤ (n.log2 : Int) - 52),
    (by omega : (n.log2 : Int) - 52 ≤ 971)⟩

theorem magnitude_ofNat : (ofNat n).magnitude = n := by
  have hlog := log2_le hpos h
  rw [ofNat_eq hpos h, magnitude]
  push_cast
  rw [mul_assoc, ← zpow_natCast, ← zpow_add₀ two_ne_zero]
  have hzero : ((52 - n.log2 : Nat) : Int) + ((n.log2 : Int) - 52) = 0 := by omega
  rw [hzero, zpow_zero, mul_one]

end OfNat

theorem mul?_eq (x y : Binary64) :
    x.mul? y = ofQuotient? (x.negative != y.negative)
      (scaled (x.mantissa * y.mantissa) 1 (-(x.exponent + y.exponent))).1
      (scaled (x.mantissa * y.mantissa) 1 (-(x.exponent + y.exponent))).2 := rfl

theorem div?_eq (x y : Binary64) :
    x.div? y = ofQuotient? (x.negative != y.negative)
      (scaled x.mantissa y.mantissa (y.exponent - x.exponent)).1
      (scaled x.mantissa y.mantissa (y.exponent - x.exponent)).2 := rfl

theorem exists_mul?_eq (x y : Binary64) :
    ∃ num den : Nat, 0 < den ∧ (num : ℚ) / den = x.magnitude * y.magnitude ∧
      x.mul? y = ofQuotient? (x.negative != y.negative) num den := by
  refine ⟨_, _, scaled_den_pos _ one_pos _, ?_, mul?_eq x y⟩
  rw [scaled_div, magnitude, magnitude, zpow_neg, div_inv_eq_mul, zpow_add₀ two_ne_zero]
  push_cast
  ring

theorem exists_div?_eq (x : Binary64) {y : Binary64} (hy : y.Normal) :
    ∃ num den : Nat, 0 < den ∧ (num : ℚ) / den = x.magnitude / y.magnitude ∧
      x.div? y = ofQuotient? (x.negative != y.negative) num den := by
  have hmantissa : 0 < y.mantissa := Nat.lt_of_lt_of_le (Nat.two_pow_pos 52) hy.le_mantissa
  refine ⟨_, _, scaled_den_pos _ hmantissa _, ?_, div?_eq x y⟩
  rw [scaled_div, magnitude, magnitude, zpow_sub₀ two_ne_zero, mul_div_mul_comm,
    div_div_eq_mul_div, mul_div_assoc]

/-- A product that is a number of the format is that number. -/
theorem Normal.mul?_of_eq {z : Binary64} (h : z.Normal) {x y : Binary64}
    (hsign : z.negative = (x.negative != y.negative))
    (heq : z.magnitude = x.magnitude * y.magnitude) : x.mul? y = some z := by
  obtain ⟨num, den, hden, hvalue, hmul⟩ := exists_mul?_eq x y
  rw [hmul, ← hsign]
  exact h.ofQuotient?_of_eq hden (hvalue.trans heq.symm)

/-- A quotient of numbers that is a number of the format is that number. -/
theorem Normal.div?_of_eq {z : Binary64} (h : z.Normal) {x y : Binary64} (hy : y.Normal)
    (hsign : z.negative = (x.negative != y.negative))
    (heq : z.magnitude = x.magnitude / y.magnitude) : x.div? y = some z := by
  obtain ⟨num, den, hden, hvalue, hdiv⟩ := exists_div?_eq x hy
  rw [hdiv, ← hsign]
  exact h.ofQuotient?_of_eq hden (hvalue.trans heq.symm)

/-- A quotient of numbers in the range of the format is rounded. -/
theorem Normal.exists_div? {x y : Binary64} (hx : x.Normal) (hy : y.Normal)
    (hlow : minExponent + 52 ≤ Int.log 2 (x.magnitude / y.magnitude))
    (hhigh : Int.log 2 (x.magnitude / y.magnitude) < maxExponent + 52) :
    ∃ z, x.div? y = some z ∧ z.negative = (x.negative != y.negative) ∧
      Rounds (x.magnitude / y.magnitude) z := by
  have hpos := div_pos hx.magnitude_pos hy.magnitude_pos
  obtain ⟨num, den, hden, hvalue, hdiv⟩ := exists_div?_eq x hy
  rw [← hvalue] at hpos hlow hhigh ⊢
  rw [hdiv]
  exact exists_ofQuotient? _ hden hpos hlow hhigh

theorem fraction_div (x : Binary64) : (x.fraction.1 : ℚ) / x.fraction.2 = x.magnitude := by
  rw [fraction, scaled_div, magnitude, Nat.cast_one, div_one, zpow_neg, div_inv_eq_mul]

theorem wholePart_eq (x : Binary64) : x.wholePart = ⌊x.magnitude⌋₊ := by
  rw [← fraction_div, Nat.floor_div_eq_div]
  rfl

theorem atLeast_iff {x : Binary64} (n : Nat) (hpos : 0 ≤ x.magnitude) :
    x.atLeast n = true ↔ (n : ℚ) ≤ x.magnitude := by
  rw [atLeast, decide_eq_true_eq, wholePart_eq, Nat.le_floor_iff hpos]

/-- Rounding to a whole number takes a half up. -/
theorem nearestUp_eq (x : Binary64) : x.nearestUp = ⌊x.magnitude + 1 / 2⌋₊ := by
  have hden : (x.fraction.2 : ℚ) ≠ 0 := by
    exact_mod_cast (scaled_den_pos x.mantissa one_pos (-x.exponent)).ne'
  have hsum : x.magnitude + 1 / 2 =
      ((2 * x.fraction.1 + x.fraction.2 : Nat) : ℚ) / (2 * x.fraction.2 : Nat) := by
    rw [← fraction_div, div_add_div _ _ hden two_ne_zero]
    push_cast
    congr 1 <;> ring
  rw [hsum, Nat.floor_div_eq_div]
  rfl

end TaskDesk.Binary64
