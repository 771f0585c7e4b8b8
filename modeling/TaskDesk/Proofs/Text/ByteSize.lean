import Mathlib.Algebra.Order.Round
import TaskDesk.Proofs.Number.Shortest
import TaskDesk.Text.ByteSize

/-!
# Labels of sizes

A count of bytes is divided by 1024 without being rounded, because that only lowers the exponent,
until it is below 1024. Its product with a hundred is a number of the format as well, so the label
has the nearest number of hundredths, a half going up. The unit is chosen before that rounding:
the counts just below a unit get 1024 of the smaller one.

## Main definitions

- `ByteSize.inUnit` — a count in a unit
- `ByteSize.hundredthsIn` — the nearest number of hundredths of a unit
- `ByteSize.RoundsUp` — a count is rounded up to 1024 of its unit

## Main results

- `ByteSize.scaled_eq` — the unit is the largest one of which there is at least one
- `ByteSize.text_eq` — the label has the nearest number of hundredths of that unit
- `ByteSize.below_next_unit_unless_rounded_up` — it is below 1024, but for three ranges of counts
- `ByteSize.shown_as_1024_kilobytes` — in these it is 1024
-/

namespace TaskDesk.ByteSize

open Binary64

theorem SizeUnit.rank_le (u : SizeUnit) : u.rank ≤ 3 := by
  cases u <;> decide

theorem SizeUnit.rank_of_next? {u larger : SizeUnit} (h : u.next? = some larger) :
    larger.rank = u.rank + 1 := by
  cases u <;> cases h <;> rfl

theorem SizeUnit.rank_of_next?_none {u : SizeUnit} (h : u.next? = none) : u.rank = 3 := by
  cases u <;> cases h
  rfl

theorem SizeUnit.rank_injective : Function.Injective rank := by
  intro u v h
  cases u <;> cases v <;> cases h <;> rfl

/-- The count `n` in the unit `u`. -/
def inUnit (n : Nat) (u : SizeUnit) : Binary64 :=
  (ofNat n).halved (10 * u.rank)

theorem negative_inUnit {n : Nat} (hbits : n < 2 ^ 53) (u : SizeUnit) :
    (inUnit n u).negative = false :=
  (whole_ofNat hbits.le).1

/-! ## Choosing the unit -/

section Bits

variable {n : Nat} (hpos : n ≠ 0) (hbits : n < 2 ^ 53)
include hpos hbits

theorem normal_inUnit (u : SizeUnit) : (inUnit n u).Normal := by
  have hrank := u.rank_le
  refine (normal_ofNat hpos hbits).halved ?_
  rw [exponent_ofNat hpos hbits, minExponent]
  push_cast
  omega

theorem magnitude_inUnit (u : SizeUnit) : (inUnit n u).magnitude = n / 1024 ^ u.rank := by
  rw [inUnit, magnitude_halved, magnitude_ofNat hpos hbits, pow_mul]
  norm_num

/-- The number is divided by lowering its exponent. -/
theorem kibi_inUnit {u larger : SizeUnit} (hnext : u.next? = some larger) :
    kibi (inUnit n u) = inUnit n larger := by
  have hthousand : (ofNat 1024).Normal := normal_ofNat (by decide) (by decide)
  have hsign : (inUnit n larger).negative = ((inUnit n u).negative != (ofNat 1024).negative) := by
    rw [negative_inUnit hbits, negative_inUnit hbits, (whole_ofNat (by decide)).1]
    rfl
  have hdiv : (inUnit n u).div? (ofNat 1024) = some (inUnit n larger) := by
    refine (normal_inUnit hpos hbits larger).div?_of_eq hthousand hsign ?_
    rw [magnitude_inUnit hpos hbits, magnitude_inUnit hpos hbits,
      magnitude_ofNat (by decide) (by decide), SizeUnit.rank_of_next? hnext, pow_succ, div_div]
    norm_num
  rw [kibi, hdiv]
  rfl

theorem atLeast_inUnit (u : SizeUnit) :
    (inUnit n u).atLeast 1024 = true ↔ 1024 ^ (u.rank + 1) ≤ n := by
  have hunit : (0 : ℚ) < 1024 ^ u.rank := by positivity
  rw [atLeast_iff _ (normal_inUnit hpos hbits u).magnitude_pos.le, magnitude_inUnit hpos hbits,
    le_div_iff₀ hunit, pow_succ, mul_comm]
  norm_cast

/-- Dividing ends in the unit of which there is at least one, but less than 1024. -/
theorem exists_scaleFrom (hlt : n < 1024 ^ 4) (u : SizeUnit) (hle : 1024 ^ u.rank ≤ n)
    (steps : Nat) (hsteps : u.rank + steps = 3) :
    ∃ v : SizeUnit, scaleFrom (inUnit n u) u steps = (inUnit n v, v) ∧ 1024 ^ v.rank ≤ n ∧
      n < 1024 ^ (v.rank + 1) := by
  induction steps generalizing u with
  | zero =>
    have hrank : u.rank = 3 := hsteps
    exact ⟨u, rfl, hle, by rw [hrank]; exact hlt⟩
  | succ steps ih =>
    rw [scaleFrom]
    cases hnext : u.next? with
    | none =>
      have hrank := SizeUnit.rank_of_next?_none hnext
      omega
    | some larger =>
      have hrank := SizeUnit.rank_of_next? hnext
      simp only
      split
      case isTrue hmore =>
        rw [kibi_inUnit hpos hbits hnext]
        refine ih larger ?_ (by omega)
        rw [hrank]
        exact (atLeast_inUnit hpos hbits u).mp hmore
      case isFalse hless =>
        rw [atLeast_inUnit hpos hbits, not_le] at hless
        exact ⟨u, rfl, hle, hless⟩

end Bits

/-! ## Rounding to hundredths -/

/-- The number of hundredths of the unit that is nearest to the count; a half goes up. -/
def hundredthsIn (n : Nat) (u : SizeUnit) : Nat :=
  (200 * n + 1024 ^ u.rank) / (2 * 1024 ^ u.rank)

theorem hundredthsIn_eq_floor (n : Nat) (u : SizeUnit) :
    hundredthsIn n u = ⌊100 * (n / 1024 ^ u.rank : ℚ) + 1 / 2⌋₊ := by
  have hunit : (1024 : ℚ) ^ u.rank ≠ 0 := by positivity
  have hsum : 100 * (n / 1024 ^ u.rank : ℚ) + 1 / 2 =
      ((200 * n + 1024 ^ u.rank : Nat) : ℚ) / (2 * 1024 ^ u.rank : Nat) := by
    push_cast
    field_simp
    ring
  rw [hsum, Nat.floor_div_eq_div, hundredthsIn]

theorem hundredthsIn_eq_round (n : Nat) (u : SizeUnit) :
    (hundredthsIn n u : Int) = round (100 * (n / 1024 ^ u.rank : ℚ)) := by
  rw [round_eq, hundredthsIn_eq_floor, Int.natCast_floor_eq_floor (by positivity)]

-- An equation between functions: applied to a variable, the product with a number that is known
-- would be evaluated as far as it goes to see which case of the match it is.
theorem hundredths_def :
    hundredths = fun x =>
      match x.mul? (ofNat 100) with
      | none => x
      | some y => ((ofNat y.nearestUp).div? (ofNat 100)).getD x := by
  delta hundredths
  exact Eq.refl _

theorem hundredths_eq {x y z hundred : Binary64} (hhundred : ofNat 100 = hundred)
    (hproduct : x.mul? hundred = some y) (hquotient : (ofNat y.nearestUp).div? hundred = some z) :
    hundredths x = z := by
  rw [hundredths_def, hhundred]
  simp only [hproduct, hquotient, Option.getD_some]

/-- Between 1 and 1024 the binary logarithm is between 0 and 10. -/
theorem log_hundredth {m : Nat} (hleast : 100 ≤ m) (hmost : m ≤ 102400) :
    0 ≤ Int.log 2 (m / 100 : ℚ) ∧ Int.log 2 (m / 100 : ℚ) < 11 := by
  have hlow : (100 : ℚ) ≤ m := by exact_mod_cast hleast
  have hhigh : (m : ℚ) ≤ 102400 := by exact_mod_cast hmost
  have hpos : (0 : ℚ) < m / 100 := by linarith
  constructor
  · rw [le_log_iff hpos, zpow_zero]
    linarith
  · rw [log_lt_iff hpos]
    norm_num
    linarith

section Fitting

variable {n : Nat} {u : SizeUnit} (hle : 1024 ^ u.rank ≤ n) (hlt : n < 1024 ^ (u.rank + 1))
include hle hlt

theorem hundredthsIn_mem : 100 ≤ hundredthsIn n u ∧ hundredthsIn n u ≤ 102400 := by
  have hunit : 0 < 1024 ^ u.rank := Nat.pow_pos (by decide)
  rw [pow_succ] at hlt
  constructor
  · rw [hundredthsIn, Nat.le_div_iff_mul_le (by omega)]
    omega
  · rw [hundredthsIn, ← Nat.lt_succ_iff, Nat.div_lt_iff_lt_mul (by omega)]
    omega

theorem fits : n ≠ 0 ∧ 100 * n < 2 ^ 53 := by
  have hunit : 0 < 1024 ^ u.rank := Nat.pow_pos (by decide)
  have hmost : 1024 ^ (u.rank + 1) ≤ 1024 ^ 4 :=
    Nat.pow_le_pow_right (by decide) (Nat.succ_le_succ u.rank_le)
  omega

/-- The product is not rounded, the quotient is. -/
theorem rounds_hundredths :
    (hundredths (inUnit n u)).negative = false ∧
      Rounds (hundredthsIn n u / 100) (hundredths (inUnit n u)) := by
  obtain ⟨hpos, hbits⟩ := fits hle hlt
  obtain ⟨hleast, hmost⟩ := hundredthsIn_mem hle hlt
  obtain ⟨hlogLeast, hlogMost⟩ := log_hundredth hleast hmost
  have hhundred : (ofNat 100).Normal := normal_ofNat (by decide) (by decide)
  have hhundredSign : (ofNat 100).negative = false := (whole_ofNat (by decide)).1
  have hproduct : (inUnit n u).mul? (ofNat 100) = some (inUnit (100 * n) u) := by
    refine (normal_inUnit (by omega) hbits u).mul?_of_eq ?_ ?_
    · rw [negative_inUnit hbits, negative_inUnit (by omega), hhundredSign]
      rfl
    · rw [magnitude_inUnit (by omega) hbits, magnitude_inUnit hpos (by omega),
        magnitude_ofNat (by decide) (by decide)]
      push_cast
      ring
  have hnearest : (inUnit (100 * n) u).nearestUp = hundredthsIn n u := by
    rw [nearestUp_eq, magnitude_inUnit (by omega) hbits, hundredthsIn_eq_floor]
    push_cast
    rw [mul_div_assoc]
  have hcount : (ofNat (hundredthsIn n u)).Normal := normal_ofNat (by omega) (by omega)
  have hvalue : (ofNat (hundredthsIn n u)).magnitude / (ofNat 100).magnitude =
      hundredthsIn n u / 100 := by
    rw [magnitude_ofNat (by omega) (by omega), magnitude_ofNat (by decide) (by decide)]
    norm_num
  obtain ⟨z, hz, hsign, hrounds⟩ := hcount.exists_div? hhundred
    (by rw [hvalue, minExponent]; omega) (by rw [hvalue, maxExponent]; omega)
  rw [hundredths_eq rfl hproduct (hnearest ▸ hz), ← hvalue]
  refine ⟨?_, hrounds⟩
  rw [hsign, (whole_ofNat (by omega)).1, hhundredSign]
  rfl

/-- The shortest form of the rounded number has the hundredths that it was rounded to. -/
theorem shortest_hundredths :
    (hundredths (inUnit n u)).shortest = Decimal.stripZeros (hundredthsIn n u) (-2) := by
  obtain ⟨hleast, hmost⟩ := hundredthsIn_mem hle hlt
  obtain ⟨hlogLeast, hlogMost⟩ := log_hundredth hleast hmost
  obtain ⟨-, hrounds⟩ := rounds_hundredths hle hlt
  obtain ⟨hpointLeast, hpointMost⟩ := point_mem hrounds.normal
  have hlogLe := hrounds.log_le
  have hleLog := hrounds.le_log
  have hmem : (hundredthsIn n u : ℚ) * 10 ^ (-2 : Int) ∈ (hundredths (inUnit n u)).covered := by
    have hcovers := hrounds.covers
    rw [div_eq_mul_inv] at hcovers
    norm_num at hcovers ⊢
    exact hcovers
  have hnarrow : (2 : ℚ) ^ (hundredths (inUnit n u)).exponent < 10 ^ (-2 : Int) := by
    calc (2 : ℚ) ^ (hundredths (inUnit n u)).exponent ≤ 2 ^ (-7 : Int) :=
          zpow_le_zpow_right₀ one_le_two (by omega)
      _ < 10 ^ (-2 : Int) := by norm_num
  exact shortest_eq hrounds.normal (by omega) hmem hnarrow (by omega) (by omega)

end Fitting

/-! ## Labels -/

theorem exists_scaled {n : Nat} (hpos : 1 ≤ n) (hlt : n < 1024 ^ 4) :
    ∃ u : SizeUnit, scaled n = (inUnit n u, u) ∧ 1024 ^ u.rank ≤ n ∧ n < 1024 ^ (u.rank + 1) := by
  have hbytes : inUnit n .bytes = ofNat n := by
    simp [inUnit, halved, SizeUnit.rank]
  rw [scaled, ← hbytes]
  exact exists_scaleFrom (by omega) (by omega) hlt .bytes hpos 3 rfl

section Fitting

variable {n : Nat} {u : SizeUnit} (hle : 1024 ^ u.rank ≤ n) (hlt : n < 1024 ^ (u.rank + 1))
include hle hlt

/-- The unit is the largest one of which there is at least one. -/
theorem scaled_eq : scaled n = (inUnit n u, u) := by
  have hunit : 0 < 1024 ^ u.rank := Nat.pow_pos (by decide)
  have hmost : 1024 ^ (u.rank + 1) ≤ 1024 ^ 4 :=
    Nat.pow_le_pow_right (by decide) (Nat.succ_le_succ u.rank_le)
  obtain ⟨v, hv, hvle, hvlt⟩ := exists_scaled (n := n) (by omega) (by omega)
  have hup : u.rank < v.rank + 1 :=
    (Nat.pow_lt_pow_iff_right (by decide)).mp (hle.trans_lt hvlt)
  have hdown : v.rank < u.rank + 1 :=
    (Nat.pow_lt_pow_iff_right (by decide)).mp (hvle.trans_lt hlt)
  have hsame : v = u := SizeUnit.rank_injective (by omega)
  rw [hv, hsame]

/-- The label has the nearest number of hundredths of the unit. -/
theorem text_eq : text n = Decimal.twoPlaces (hundredthsIn n u) ++ " " ++ u.label := by
  obtain ⟨hpos, -⟩ := fits hle hlt
  obtain ⟨hleast, hmost⟩ := hundredthsIn_mem hle hlt
  obtain ⟨hsign, -⟩ := rounds_hundredths hle hlt
  have hlength : (toString (hundredthsIn n u / 100)).length ≤ 4 := by
    rw [Nat.toString_eq_ofList_toDigits, String.length_ofList,
      Nat.length_toDigits_le_iff (by decide) (by decide)]
    omega
  have hgreatest : ((toString (hundredthsIn n u / 100)).length : Int) ≤ style.greatestPoint := by
    show _ ≤ (400 : Int)
    omega
  have hwritten : style.write (hundredths (inUnit n u)) =
      Decimal.twoPlaces (hundredthsIn n u) := by
    rw [DecimalStyle.write, hsign, if_neg Bool.false_ne_true, String.empty_append,
      shortest_hundredths hle hlt]
    exact DecimalStyle.writeMagnitude_hundredths rfl (by decide) hleast hgreatest
  rw [text, if_neg hpos]
  simp only [scaled_eq hle hlt, hwritten]

end Fitting

/-- The counts that are rounded up to 1024 of their unit. -/
def RoundsUp (n : Nat) : Prop :=
  1048571 ≤ n ∧ n < 1024 ^ 2 ∨ 1073736582 ≤ n ∧ n < 1024 ^ 3 ∨ 1099506259067 ≤ n ∧ n < 1024 ^ 4

theorem hundredthsIn_lt_iff {n : Nat} {u : SizeUnit} (hle : 1024 ^ u.rank ≤ n)
    (hlt : n < 1024 ^ (u.rank + 1)) : hundredthsIn n u < 102400 ↔ ¬ RoundsUp n := by
  unfold hundredthsIn RoundsUp
  cases u <;> simp only [SizeUnit.rank] at hle hlt ⊢ <;> omega

/-- The label of a count below 1024 gigabytes has the largest unit of which there is at least one,
and the nearest number of hundredths of it, a half going up. That number is at least 1. It is
below 1024 unless the count is one of those just below a unit that are rounded up to 1024. -/
theorem below_next_unit_unless_rounded_up {n : Nat} (hpos : 1 ≤ n) (hlt : n < 1024 ^ 4) :
    ∃ (u : SizeUnit) (m : Nat), (scaled n).2 = u ∧
      text n = Decimal.twoPlaces m ++ " " ++ u.label ∧
      (m : Int) = round (100 * (n / 1024 ^ u.rank : ℚ)) ∧
      1024 ^ u.rank ≤ n ∧ n < 1024 ^ (u.rank + 1) ∧
      1 ≤ (m / 100 : ℚ) ∧ (m / 100 : ℚ) ≤ 1024 ∧ ((m / 100 : ℚ) < 1024 ↔ ¬ RoundsUp n) := by
  obtain ⟨u, hscaled, hle, hbelow⟩ := exists_scaled hpos hlt
  obtain ⟨hleast, hmost⟩ := hundredthsIn_mem hle hbelow
  refine ⟨u, hundredthsIn n u, by rw [hscaled], text_eq hle hbelow, hundredthsIn_eq_round n u, hle,
    hbelow, ?_, ?_, ?_⟩
  · rw [le_div_iff₀ (by norm_num)]
    exact_mod_cast hleast
  · rw [div_le_iff₀ (by norm_num)]
    norm_num
    exact_mod_cast hmost
  · rw [← hundredthsIn_lt_iff hle hbelow, div_lt_iff₀ (by norm_num)]
    norm_num

/-- The last count before a megabyte that is not rounded up, and the first one that is. -/
theorem below_next_unit_unless_rounded_up_around_megabyte :
    ¬ RoundsUp 1048570 ∧ text 1048570 = "1023.99 KB" ∧
      RoundsUp 1048571 ∧ text 1048571 = "1024 KB" := by
  have hunit {n : Nat} {u : SizeUnit} (hleast : 1048570 ≤ n) (hmost : n ≤ 1048571)
      (hle : 1024 ^ u.rank ≤ n) (hlt : n < 1024 ^ (u.rank + 1)) : u = .kilobytes := by
    cases u <;> simp only [SizeUnit.rank] at hle hlt <;> first | rfl | omega
  obtain ⟨u, m, -, hlast, hm, hule, hult, -⟩ :=
    below_next_unit_unless_rounded_up (n := 1048570) (by decide) (by decide)
  obtain ⟨v, k, -, hfirst, hk, hvle, hvlt, -⟩ :=
    below_next_unit_unless_rounded_up (n := 1048571) (by decide) (by decide)
  obtain rfl := hunit (by decide) (by decide) hule hult
  obtain rfl := hunit (by decide) (by decide) hvle hvlt
  have hmvalue : m = 102399 := by
    rw [round_eq] at hm
    norm_num [SizeUnit.rank] at hm
    exact_mod_cast hm
  have hkvalue : k = 102400 := by
    rw [round_eq] at hk
    norm_num [SizeUnit.rank] at hk
    exact_mod_cast hk
  rw [hmvalue] at hlast
  rw [hkvalue] at hfirst
  have hbelow : ¬ RoundsUp 1048570 := by
    unfold RoundsUp
    omega
  have habove : RoundsUp 1048571 := by
    unfold RoundsUp
    omega
  exact ⟨hbelow, hlast.trans (by decide), habove, hfirst.trans (by decide)⟩

/-- Just below a megabyte the label says 1024 kilobytes. -/
theorem shown_as_1024_kilobytes :
    ¬ ∀ (n m : Nat) (u : SizeUnit), 1 ≤ n → n < 1024 ^ 4 →
        text n = Decimal.twoPlaces m ++ " " ++ u.label → (m / 100 : ℚ) < 1024 := by
  intro hless
  have htext := text_eq (n := 1048575) (u := .kilobytes) (by decide) (by decide)
  have hlast := hless _ _ _ (by decide) (by decide) htext
  norm_num [hundredthsIn, SizeUnit.rank] at hlast

end TaskDesk.ByteSize
