import TaskDesk.Proofs.Number.Decimal
import TaskDesk.Proofs.Number.Rounding

/-!
# The search for the shortest decimal form

The search goes through the decimal grids from the coarse one of one digit to the fine one of
seventeen digits, and stops at the first grid with a point in the neighbourhood of the number. As
soon as a grid is too fine for the neighbourhood to hold two of its points, the search finds the
one point that the neighbourhood holds: on a coarser grid nothing else can be found, because every
point of a coarser grid is one of the finer grid as well.

## Main definitions

- `Decimal.value` — the number that digits and a power of ten stand for
- `Binary64.point` — the position of the decimal point that the search starts from

## Main results

- `Decimal.stripZeros_eq_of_value_eq` — without zeros at the end a number is written in one way
- `Binary64.onGrid?_cases` — what a grid offers
- `Binary64.shortest_eq` — a decimal form is the shortest one if no other point of its grid is near
-/

namespace TaskDesk

namespace Decimal

/-- The number that the digits and the power stand for. -/
def value (d : Decimal) : ℚ :=
  d.digits * 10 ^ d.power

/-- Without zeros at the end a number is written in one way. -/
theorem stripZeros_eq_of_value_eq {c d : Decimal} (hc : c.digits ≠ 0)
    (hpower : d.power ≤ c.power) (hvalue : c.value = d.value) :
    stripZeros c.digits c.power = stripZeros d.digits d.power := by
  obtain ⟨k, hk⟩ := Int.le.dest hpower
  have hdigits : d.digits = c.digits * 10 ^ k := by
    rw [value, value, ← hk, zpow_add₀ (by norm_num), zpow_natCast, mul_left_comm, mul_comm]
      at hvalue
    exact_mod_cast (mul_right_cancel₀ (by positivity) hvalue).symm
  rw [hdigits, stripZeros_mul_pow hc, hk]

end Decimal

namespace Binary64

/-! ## Neighbourhoods -/

theorem Normal.magnitude_mem_covered {x : Binary64} (h : x.Normal) : x.magnitude ∈ x.covered :=
  h.mem_covered_of_near (.inl (by norm_num)) fun _ => le_rfl

/-- A neighbourhood is at most one unit of the mantissa wide. -/
theorem abs_sub_le_of_mem_covered {x : Binary64} {q r : ℚ} (hq : q ∈ x.covered)
    (hr : r ∈ x.covered) : |q - r| ≤ 2 ^ x.exponent := by
  have hunit : (0 : ℚ) < 2 ^ (x.exponent - 2) := by positivity
  have hwidth : (x.neighbourhood.high : ℚ) ≤ x.neighbourhood.low + 4 := by
    have hnat : x.neighbourhood.high ≤ x.neighbourhood.low + 4 := by
      simp only [neighbourhood]
      split <;> omega
    exact_mod_cast hnat
  have hfour : (2 : ℚ) ^ x.exponent = 4 * 2 ^ (x.exponent - 2) := by
    rw [zpow_sub₀ two_ne_zero]
    norm_num
    ring
  obtain ⟨hqlow, hqhigh⟩ := x.neighbourhood.range_subset hq
  obtain ⟨hrlow, hrhigh⟩ := x.neighbourhood.range_subset hr
  rw [le_div_iff₀ hunit] at hqlow hrlow
  rw [div_le_iff₀ hunit] at hqhigh hrhigh
  rw [abs_le, hfour]
  constructor <;> nlinarith

/-- Of the points of a grid that are in a convex set around `v`, one is next to `v`. -/
theorem floor_mem_or_succ_mem {s : Set ℚ} (hs : s.OrdConnected) {v step : ℚ} (hv : v ∈ s)
    (hnonneg : 0 ≤ v) (hstep : 0 < step) {d : Nat} (hd : d * step ∈ s) :
    (⌊v / step⌋₊ : ℚ) * step ∈ s ∨ ((⌊v / step⌋₊ + 1 : Nat) : ℚ) * step ∈ s := by
  obtain hle | hlt := le_or_gt d ⌊v / step⌋₊
  · have hbelow : (⌊v / step⌋₊ : ℚ) * step ≤ v :=
      (le_div_iff₀ hstep).mp (Nat.floor_le (div_nonneg hnonneg hstep.le))
    refine .inl (hs.out hd hv ⟨?_, hbelow⟩)
    gcongr
  · have habove : v ≤ ((⌊v / step⌋₊ + 1 : Nat) : ℚ) * step :=
      (div_le_iff₀ hstep).mp (by exact_mod_cast (Nat.lt_floor_add_one (v / step)).le)
    refine .inr (hs.out hv hd ⟨habove, ?_⟩)
    gcongr
    exact hlt

/-! ## One grid -/

theorem decimalScaled_div (num den : Nat) (k : Int) :
    ((decimalScaled num den k).1 : ℚ) / (decimalScaled num den k).2 = num / den / 10 ^ k :=
  shifted_div num den (by decide) k

theorem decimalScaled_den_pos (num : Nat) {den : Nat} (hden : 0 < den) (k : Int) :
    0 < (decimalScaled num den k).2 :=
  Nat.mul_pos hden (Nat.pow_pos (by decide))

/-- Numerator and denominator of the unit of the neighbourhood. -/
def unit (x : Binary64) : Nat × Nat :=
  scaled 1 1 (-(x.exponent - 2))

theorem unit_div (x : Binary64) : (x.unit.1 : ℚ) / x.unit.2 = 2 ^ (x.exponent - 2) := by
  rw [unit, scaled_div, Nat.cast_one, div_one, zpow_neg, one_div, inv_inv]

theorem unit_den_pos (x : Binary64) : 0 < x.unit.2 :=
  scaled_den_pos 1 one_pos _

/-- The position of the decimal point that the search starts from. -/
def point (x : Binary64) : Int :=
  decimalPoint (x.neighbourhood.centre * x.unit.1) x.unit.2

theorem centre_mul_unit (x : Binary64) :
    ((x.neighbourhood.centre * x.unit.1 : Nat) : ℚ) / x.unit.2 = x.magnitude := by
  have hcentre : (x.neighbourhood.centre : ℚ) = 4 * x.mantissa := by
    simp [neighbourhood]
  push_cast
  rw [mul_div_assoc, unit_div, hcentre, magnitude, zpow_sub₀ two_ne_zero]
  norm_num
  ring

section Compare

variable (x : Binary64) (a d : Nat) (k : Int)

/-- A multiple of the unit, as a multiple of a step of the grid. -/
theorem gridScaled_div :
    ((decimalScaled (a * x.unit.1) x.unit.2 k).1 : ℚ) /
        (decimalScaled (a * x.unit.1) x.unit.2 k).2 =
      a * 2 ^ (x.exponent - 2) / 10 ^ k := by
  rw [decimalScaled_div]
  push_cast
  rw [mul_div_assoc, unit_div]

theorem le_grid_iff :
    (decimalScaled (a * x.unit.1) x.unit.2 k).1 ≤ d * (decimalScaled (a * x.unit.1) x.unit.2 k).2 ↔
      (a : ℚ) ≤ d * 10 ^ k / 2 ^ (x.exponent - 2) := by
  have hden : (0 : ℚ) < (decimalScaled (a * x.unit.1) x.unit.2 k).2 := by
    exact_mod_cast decimalScaled_den_pos _ x.unit_den_pos k
  rw [le_div_iff₀ (by positivity), ← div_le_iff₀ (by positivity), ← gridScaled_div,
    div_le_iff₀ hden]
  exact_mod_cast Iff.rfl

theorem grid_le_iff :
    d * (decimalScaled (a * x.unit.1) x.unit.2 k).2 ≤ (decimalScaled (a * x.unit.1) x.unit.2 k).1 ↔
      d * 10 ^ k / 2 ^ (x.exponent - 2) ≤ (a : ℚ) := by
  have hden : (0 : ℚ) < (decimalScaled (a * x.unit.1) x.unit.2 k).2 := by
    exact_mod_cast decimalScaled_den_pos _ x.unit_den_pos k
  rw [div_le_iff₀ (by positivity), ← le_div_iff₀ (by positivity), ← gridScaled_div,
    le_div_iff₀ hden]
  exact_mod_cast Iff.rfl

end Compare

/-- The test of the search whether the point `d` of a grid is in the neighbourhood. -/
def inside (x : Binary64) (k : Int) (d : Nat) : Bool :=
  let den := (decimalScaled (x.neighbourhood.centre * x.unit.1) x.unit.2 k).2
  let low := (decimalScaled (x.neighbourhood.low * x.unit.1) x.unit.2 k).1
  let high := (decimalScaled (x.neighbourhood.high * x.unit.1) x.unit.2 k).1
  if x.neighbourhood.closed then low ≤ d * den && d * den ≤ high
  else low < d * den && d * den < high

theorem inside_iff (x : Binary64) (k : Int) (d : Nat) :
    x.inside k d = true ↔ (d : ℚ) * 10 ^ k ∈ x.covered := by
  have hlow := x.le_grid_iff x.neighbourhood.low d k
  have hhigh := x.grid_le_iff x.neighbourhood.high d k
  have hnotLow := (x.grid_le_iff x.neighbourhood.low d k).not
  have hnotHigh := (x.le_grid_iff x.neighbourhood.high d k).not
  rw [not_le, not_le] at hnotLow hnotHigh
  rw [covered, Set.mem_ofPred_eq, Neighbourhood.range, inside]
  split
  · rw [Bool.and_eq_true, decide_eq_true_eq, decide_eq_true_eq, Set.mem_Icc]
    exact and_congr hlow hhigh
  · rw [Bool.and_eq_true, decide_eq_true_eq, decide_eq_true_eq, Set.mem_Ioo]
    exact and_congr hnotLow hnotHigh

/-- A grid offers the point below the number or the one above it, if it is covered. -/
theorem onGrid?_eq (x : Binary64) (count : Nat) :
    ∃ nearBelow : Bool, x.onGrid? count =
      let power := x.point - count
      let below := ⌊x.magnitude / 10 ^ power⌋₊
      match x.inside power below, x.inside power (below + 1) with
      | true, true => some ⟨if nearBelow then below else below + 1, power⟩
      | true, false => some ⟨below, power⟩
      | false, true => some ⟨below + 1, power⟩
      | false, false => none := by
  simp only [← centre_mul_unit, ← decimalScaled_div, Nat.floor_div_eq_div]
  exact ⟨_, rfl⟩

/-- What a grid offers is covered; if it offers nothing, no point of it is. -/
theorem onGrid?_cases {x : Binary64} (h : x.Normal) (count : Nat) :
    (∃ d : Nat, x.onGrid? count = some ⟨d, x.point - count⟩ ∧
        (d : ℚ) * 10 ^ (x.point - count) ∈ x.covered) ∨
      x.onGrid? count = none ∧ ∀ d : Nat, (d : ℚ) * 10 ^ (x.point - count) ∉ x.covered := by
  obtain ⟨nearBelow, heq⟩ := x.onGrid?_eq count
  obtain ⟨power, hpower⟩ : ∃ power, x.point - count = power := ⟨_, rfl⟩
  obtain ⟨below, hbelow⟩ : ∃ below, ⌊x.magnitude / 10 ^ power⌋₊ = below := ⟨_, rfl⟩
  simp only [hpower, hbelow] at heq ⊢
  rw [heq]
  rcases hhere : x.inside power below with _ | _ <;>
    rcases hthere : x.inside power (below + 1) with _ | _
  case false.false =>
    refine .inr ⟨rfl, fun d hd => ?_⟩
    have hnear := floor_mem_or_succ_mem x.ordConnected_covered h.magnitude_mem_covered
      h.magnitude_pos.le (by positivity) hd
    rw [hbelow, ← inside_iff, ← inside_iff, hhere, hthere] at hnear
    simp at hnear
  case false.true => exact .inl ⟨_, rfl, (x.inside_iff _ _).mp hthere⟩
  case true.false => exact .inl ⟨_, rfl, (x.inside_iff _ _).mp hhere⟩
  case true.true =>
    refine .inl ⟨_, rfl, ?_⟩
    split
    · exact (x.inside_iff _ _).mp hhere
    · exact (x.inside_iff _ _).mp hthere

/-- Where the point is estimated to be, from the number of bits before it. -/
theorem point_mem {x : Binary64} (h : x.Normal) :
    (x.exponent + 52) * 30103 / 100000 - 1 ≤ x.point ∧
      x.point ≤ (x.exponent + 53) * 30103 / 100000 + 2 := by
  have hnum : 0 < x.neighbourhood.centre * x.unit.1 :=
    pos_of_div_pos (x.centre_mul_unit ▸ h.magnitude_pos)
  obtain ⟨hlow, hhigh⟩ := lt_div_lt hnum x.unit_den_pos
  rw [centre_mul_unit] at hlow hhigh
  have hleast := (zpow_lt_zpow_iff_right₀ one_lt_two).mp (h.zpow_le_magnitude.trans_lt hhigh)
  have hmost := (zpow_lt_zpow_iff_right₀ one_lt_two).mp (hlow.trans h.magnitude_lt_zpow)
  unfold point decimalPoint
  simp only [Int.fdiv_eq_ediv_of_nonneg _ (by decide : (0 : Int) ≤ 100000)]
  constructor
  · split_ifs <;> omega
  · split_ifs <;> omega

/-! ## The search -/

/-- On a grid too fine for two points in the neighbourhood there is one covered point. -/
theorem eq_of_mem_covered {x : Binary64} {i j : Nat} {p : Int}
    (hnarrow : (2 : ℚ) ^ x.exponent < 10 ^ p) (hi : (i : ℚ) * 10 ^ p ∈ x.covered)
    (hj : (j : ℚ) * 10 ^ p ∈ x.covered) : i = j := by
  have hclose := (abs_sub_le_of_mem_covered hi hj).trans_lt hnarrow
  have hstep : (0 : ℚ) < 10 ^ p := by positivity
  rw [← sub_mul, abs_mul, abs_of_pos hstep, mul_lt_iff_lt_one_left hstep] at hclose
  have hint : |(i : Int) - j| < 1 := by exact_mod_cast hclose
  rw [Int.abs_lt_one_iff] at hint
  omega

/-- The search finds the covered point of a grid that is too fine for a second one. -/
theorem value_firstOnGrid {x : Binary64} (h : x.Normal) {d : Nat} {p : Int}
    (hmem : (d : ℚ) * 10 ^ p ∈ x.covered) (hnarrow : (2 : ℚ) ^ x.exponent < 10 ^ p)
    (tries count : Nat) (hfrom : count ≤ x.point - p) (hto : x.point - p < count + tries) :
    p ≤ (x.firstOnGrid tries count).power ∧ (x.firstOnGrid tries count).value = d * 10 ^ p := by
  induction tries generalizing count with
  | zero => omega
  | succ tries ih =>
    obtain ⟨c, hc, hcovered⟩ | ⟨hnone, hfree⟩ := onGrid?_cases h count
    · -- A point of a coarser grid is a point of the grid of `p`.
      obtain ⟨k, hk⟩ := Int.le.dest (show p ≤ x.point - count by omega)
      have hfiner : (c : ℚ) * 10 ^ (x.point - count) = (c * 10 ^ k : Nat) * 10 ^ p := by
        rw [← hk, zpow_add₀ (by norm_num), zpow_natCast]
        push_cast
        ring
      have hsame : c * 10 ^ k = d := eq_of_mem_covered hnarrow (hfiner ▸ hcovered) hmem
      rw [firstOnGrid, hc]
      refine ⟨by simp only; omega, ?_⟩
      rw [Decimal.value, hfiner, hsame]
    · have hlater : x.point - count ≠ p := by
        rintro rfl
        exact hfree d hmem
      rw [firstOnGrid, hnone]
      exact ih (count + 1) (by omega) (by omega)

/-- A decimal form is the shortest one if its grid has no other point near the number. -/
theorem shortest_eq {x : Binary64} (h : x.Normal) {d : Nat} {p : Int} (hd : d ≠ 0)
    (hmem : (d : ℚ) * 10 ^ p ∈ x.covered) (hnarrow : (2 : ℚ) ^ x.exponent < 10 ^ p)
    (hfrom : 1 ≤ x.point - p) (hto : x.point - p ≤ 17) :
    x.shortest = Decimal.stripZeros d p := by
  obtain ⟨hpower, hvalue⟩ := value_firstOnGrid h hmem hnarrow 17 1 (by omega) (by omega)
  have hmantissa := h.le_mantissa
  have hzero : ¬ x.isZero = true := by
    rw [isZero, beq_iff_eq]
    omega
  have hdigits : (x.firstOnGrid 17 1).digits ≠ 0 := by
    intro hnone
    rw [Decimal.value, hnone, Nat.cast_zero, zero_mul] at hvalue
    have hpos : (0 : ℚ) < d * 10 ^ p := by positivity
    exact hpos.ne hvalue
  rw [shortest, if_neg hzero]
  exact Decimal.stripZeros_eq_of_value_eq (d := ⟨d, p⟩) hdigits hpower hvalue

end Binary64

end TaskDesk
