import TaskDesk.Number.Binary64

/-!
# The shortest decimal form of a number

The fewest decimal digits that read back as the same `binary64` number, and of those the ones
nearest to it. The reals that round to a number are an interval around it, with its ends exactly
if the mantissa is even. A decimal grid has a point in the interval only if one of the two grid
neighbours of the number is in it, so it is enough to test those two, first on the grid of one
digit, then of two, and so on; seventeen digits always suffice.

## Main definitions

* `Decimal`: digits and a power of ten.
* `Binary64.shortest`: the shortest form.
* `DecimalStyle`, `DecimalStyle.write`: where positional notation ends, and how.
-/

namespace TaskDesk

/-- The number `digits · 10 ^ power`. -/
structure Decimal where
  digits : Nat
  power : Int
deriving DecidableEq, Repr

namespace Decimal

/-- Drops zeros at the end of the digits. -/
def stripZeros (digits : Nat) (power : Int) : Decimal :=
  if _ : digits = 0 then ⟨0, 0⟩
  else if digits % 10 = 0 then stripZeros (digits / 10) (power + 1)
  else ⟨digits, power⟩
termination_by digits
decreasing_by omega

end Decimal

namespace Binary64

/-- Numerator and denominator of `num / den / 10 ^ k`. -/
def decimalScaled (num den : Nat) (k : Int) : Nat × Nat :=
  (num * Nat.pow 10 (-k).toNat, den * Nat.pow 10 k.toNat)

/-- The reals that round to a number, as multiples of `2 ^ (exponent - 2)`. -/
structure Neighbourhood where
  low : Nat
  centre : Nat
  high : Nat
  closed : Bool

/-- The neighbourhood of a number of the format. -/
def neighbourhood (x : Binary64) : Neighbourhood :=
  let m := 4 * x.mantissa
  -- The gap below a power of two is half as wide.
  let low := if x.mantissa = Nat.pow 2 52 ∧ x.exponent > minExponent then m - 1 else m - 2
  ⟨low, m, m + 2, x.mantissa % 2 == 0⟩

/-- The number of digits before the decimal point, less the zeros after it for small numbers:
`10 ^ (p - 1) ≤ value < 10 ^ p`. -/
def decimalPoint (num den : Nat) : Int :=
  let bits : Int := (num.log2 : Int) - (den.log2 : Int)
  let guess : Int := Int.fdiv (bits * 30103) 100000 - 1
  -- The estimate by the number of bits is never too large, and too small by three at most.
  let reaches (p : Int) : Bool :=
    let (n, d) := decimalScaled num den p
    d ≤ n
  if !reaches guess then guess
  else if !reaches (guess + 1) then guess + 1
  else if !reaches (guess + 2) then guess + 2
  else guess + 3

/-- A form of `count` digits that reads back, if there is one. Of the two grid neighbours the
nearer one is taken, and of two equally near ones the even one. -/
def onGrid? (x : Binary64) (count : Nat) : Option Decimal :=
  let hood := x.neighbourhood
  let (unitNum, unitDen) := scaled 1 1 (-(x.exponent - 2))
  let power := decimalPoint (hood.centre * unitNum) unitDen - count
  let (num, den) := decimalScaled (hood.centre * unitNum) unitDen power
  let (lowNum, _) := decimalScaled (hood.low * unitNum) unitDen power
  let (highNum, _) := decimalScaled (hood.high * unitNum) unitDen power
  let inside (d : Nat) : Bool :=
    if hood.closed then lowNum ≤ d * den && d * den ≤ highNum
    else lowNum < d * den && d * den < highNum
  let below := num / den
  let rest := num % den
  let nearBelow := 2 * rest < den || (2 * rest == den && below % 2 == 0)
  match inside below, inside (below + 1) with
  | true, true => some ⟨if nearBelow then below else below + 1, power⟩
  | true, false => some ⟨below, power⟩
  | false, true => some ⟨below + 1, power⟩
  | false, false => none

/-- The first form that reads back among those of `count`, `count + 1`, … digits. -/
def firstOnGrid (x : Binary64) : (tries count : Nat) → Decimal
  | 0, _ => ⟨0, 0⟩
  | tries + 1, count =>
    match x.onGrid? count with
    | some d => d
    | none => firstOnGrid x tries (count + 1)

def shortest (x : Binary64) : Decimal :=
  if x.isZero then ⟨0, 0⟩
  else
    let d := firstOnGrid x 17 1
    Decimal.stripZeros d.digits d.power

end Binary64

/-- How a decimal number is written. -/
structure DecimalStyle where
  /-- The least and the greatest position of the decimal point written positionally. -/
  leastPoint : Int
  greatestPoint : Int
  /-- Whole numbers get `.0`. -/
  pointZero : Bool

namespace DecimalStyle

def zeros (n : Nat) : String :=
  String.ofList (List.replicate n '0')

/-- Writes a number without its sign. -/
def writeMagnitude (style : DecimalStyle) (d : Decimal) : String :=
  let digits := toString d.digits
  let count : Int := digits.length
  let point := count + d.power
  if d.digits = 0 then (if style.pointZero then "0.0" else "0")
  else if style.leastPoint ≤ point ∧ point ≤ style.greatestPoint then
    if count ≤ point then
      digits ++ zeros (point - count).toNat ++ (if style.pointZero then ".0" else "")
    else if 0 < point then
      let cs := digits.toList
      String.ofList (cs.take point.toNat) ++ "." ++ String.ofList (cs.drop point.toNat)
    else
      "0." ++ zeros (-point).toNat ++ digits
  else
    let mark := if point - 1 < 0 then "e-" else "e+"
    let exponent := mark ++ toString (point - 1).natAbs
    match digits.toList with
    | [] => exponent
    | [c] => String.ofList [c] ++ exponent
    | c :: cs => String.ofList (c :: '.' :: cs) ++ exponent

/-- Writes a number with its sign, that of a zero included. -/
def write (style : DecimalStyle) (x : Binary64) : String :=
  (if x.negative then "-" else "") ++ style.writeMagnitude x.shortest

end DecimalStyle

end TaskDesk
