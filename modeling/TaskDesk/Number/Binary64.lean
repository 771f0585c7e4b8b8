/-!
# Finite binary64 numbers

A finite number of the IEEE format `binary64` as an exact value `± mantissa · 2 ^ exponent`, so
that every operation is arithmetic on natural numbers. Results are rounded to the nearest
number of the format, ties to the even mantissa; a result beyond the largest finite number is no
number.

## Main definitions

* `Binary64`: sign, mantissa, exponent.
* `Binary64.ofQuotient?`: the nearest number of a quotient of natural numbers.
* `Binary64.mul?`, `Binary64.div?`: rounded product and quotient.
* `Binary64.truncate`: the whole part.

## Design notes

Numbers are kept in the one form `ofQuotient?` gives: a mantissa below `2 ^ 53`, and at least
`2 ^ 52` unless the exponent is the least one, `-1074`. Equality of the structure is then
equality of numbers, but for the two zeros, which differ in their sign.
-/

namespace TaskDesk

/-- The number `± mantissa · 2 ^ exponent`. -/
structure Binary64 where
  negative : Bool
  mantissa : Nat
  exponent : Int
deriving DecidableEq, Repr, Inhabited

namespace Binary64

/-- The least exponent of the format. -/
def minExponent : Int := -1074

/-- The greatest exponent of the format. -/
def maxExponent : Int := 971

/-- Zero, of either sign. -/
def zero (negative : Bool) : Binary64 :=
  ⟨negative, 0, minExponent⟩

def isZero (x : Binary64) : Bool :=
  x.mantissa == 0

/-- The number with the other sign. -/
def neg (x : Binary64) : Binary64 :=
  { x with negative := !x.negative }

/-- The natural number nearest to `num / den`; a tie goes to the even one. -/
def roundHalfEven (num den : Nat) : Nat :=
  let q := num / den
  let r := num % den
  if 2 * r < den ∨ (2 * r = den ∧ q % 2 = 0) then q else q + 1

/-- Numerator and denominator of `num / den / 2 ^ e`. -/
def scaled (num den : Nat) (e : Int) : Nat × Nat :=
  (num * Nat.pow 2 (-e).toNat, den * Nat.pow 2 e.toNat)

/-- The exponent at which the mantissa of `num / den` has 53 bits, but not below the least. -/
def exponentFor (num den : Nat) : Int :=
  let guess : Int := (num.log2 : Int) - (den.log2 : Int) - 52
  let (n, d) := scaled num den guess
  max minExponent (if n < d * Nat.pow 2 52 then guess - 1 else guess)

/-- The number of the format nearest to `± num / den`, if it is finite. -/
def ofQuotient? (negative : Bool) (num den : Nat) : Option Binary64 :=
  if num = 0 ∨ den = 0 then some (zero negative)
  else
    let e := exponentFor num den
    let (n, d) := scaled num den e
    let m := roundHalfEven n d
    -- Rounding up may have made the mantissa one bit too long.
    let (m, e) := if m = Nat.pow 2 53 then (Nat.pow 2 52, e + 1) else (m, e)
    if e > maxExponent then none else some ⟨negative, m, e⟩

/-- The number nearest to a natural number; zero beyond the range of the format. -/
def ofNat (n : Nat) : Binary64 :=
  (ofQuotient? false n 1).getD (zero false)

/-- The number nearest to an integer. -/
def ofInt (i : Int) : Binary64 :=
  if i < 0 then (ofNat i.natAbs).neg else ofNat i.natAbs

/-- The rounded product. -/
def mul? (x y : Binary64) : Option Binary64 :=
  let (n, d) := scaled (x.mantissa * y.mantissa) 1 (-(x.exponent + y.exponent))
  ofQuotient? (x.negative != y.negative) n d

/-- The rounded quotient by a number other than zero. -/
def div? (x y : Binary64) : Option Binary64 :=
  let (n, d) := scaled x.mantissa y.mantissa (y.exponent - x.exponent)
  ofQuotient? (x.negative != y.negative) n d

/-- Numerator and denominator of the magnitude. -/
def fraction (x : Binary64) : Nat × Nat :=
  scaled x.mantissa 1 (-x.exponent)

/-- The whole part of the magnitude. -/
def wholePart (x : Binary64) : Nat :=
  let (n, d) := x.fraction
  n / d

/-- The whole part: the fraction is cut off, toward zero. -/
def truncate (x : Binary64) : Int :=
  if x.negative then -(x.wholePart : Int) else x.wholePart

/-- The magnitude rounded to a natural number; a half goes to the even one. -/
def nearestEven (x : Binary64) : Nat :=
  let (n, d) := x.fraction
  roundHalfEven n d

/-- The magnitude rounded to a natural number; a half goes up. -/
def nearestUp (x : Binary64) : Nat :=
  let (n, d) := x.fraction
  (2 * n + d) / (2 * d)

/-- The magnitude is at least `n`. -/
def atLeast (x : Binary64) (n : Nat) : Bool :=
  n ≤ x.wholePart

end Binary64

end TaskDesk
