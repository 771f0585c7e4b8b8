import TaskDesk.Number.Shortest

/-!
# Numbers of JSON text

A literal without a fraction or an exponent is an integer if it fits 64 bits, signed or not;
every other literal is a `binary64` number. Its significand is the longest run of leading
digits that fits 64 bits: digits of the whole part after it count as zeros, digits of the
fraction after it are dropped. The significand is rounded, scaled by one power of ten and
rounded again. A literal beyond the largest finite number stands for no number; one below the
smallest is a zero. `-0` is the negative zero.

## Main definitions

* `Json.Number`: an integer or a `binary64` number.
* `Json.Literal`: the parts of a literal.
* `Json.Literal.value?`: the number it stands for.
* `Json.Number.toText`: the written form.
-/

namespace TaskDesk.Json

/-- A JSON number. -/
inductive Number where
  | int (value : Int)
  | float (value : Binary64)
deriving DecidableEq, Repr, Inhabited

/-- The digits of an exponent and its sign. -/
structure Exponent where
  negative : Bool
  digits : List Nat

/-- The parts of a number literal, the digits as values. -/
structure Literal where
  negative : Bool
  whole : List Nat
  fraction : Option (List Nat)
  exponent : Option Exponent

/-- The greatest number of 64 bits. -/
def maxWord : Nat := Nat.pow 2 64 - 1

/-- Takes digits into a significand as long as it fits 64 bits. Gives the significand, how many
digits were taken and how many are left. -/
def takeDigits (significand taken : Nat) : List Nat → Nat × Nat × Nat
  | [] => (significand, taken, 0)
  | d :: ds =>
    if significand * 10 + d > maxWord then (significand, taken, ds.length + 1)
    else takeDigits (significand * 10 + d) (taken + 1) ds

/-- The value of an exponent, unless it exceeds the largest signed 32-bit number. -/
def exponentValue? (ds : List Nat) : Option Nat :=
  ds.foldl
    (fun acc d =>
      match acc with
      | none => none
      | some n => if n * 10 + d > Nat.pow 2 31 - 1 then none else some (n * 10 + d))
    (some 0)

/-- The power of ten, rounded. -/
def powerOfTen (n : Nat) : Binary64 :=
  (Binary64.ofQuotient? false (Nat.pow 10 n) 1).getD (Binary64.zero false)

/-- Divides by a power of ten, by `10 ^ 308` at a time as long as the power is greater. -/
def scaleDown (x : Binary64) (power : Nat) : Binary64 :=
  if power ≤ 308 then (x.div? (powerOfTen power)).getD x
  else if x.isZero then x
  else scaleDown ((x.div? (powerOfTen 308)).getD x) (power - 308)
termination_by power
decreasing_by omega

/-- The significand scaled by a power of ten. -/
def scale? (significand : Nat) (power : Int) : Option Binary64 :=
  let x := Binary64.ofNat significand
  if power < 0 then some (scaleDown x power.natAbs)
  else if power ≤ 308 then x.mul? (powerOfTen power.toNat)
  else if x.isZero then some x
  else none

namespace Literal

/-- The `binary64` number of a literal with the given significand and power of ten. -/
def float? (l : Literal) (significand : Nat) (power : Int) : Option Number :=
  let signed (x : Binary64) : Number := .float (if l.negative then x.neg else x)
  let bound : Int := Nat.pow 2 31
  match l.exponent with
  | none => (scale? significand power).map signed
  | some e =>
    match exponentValue? e.digits with
    | some n =>
      let total := if e.negative then power - n else power + n
      (scale? significand (min (bound - 1) (max (-bound) total))).map signed
    | none =>
      -- The exponent is beyond all bounds.
      if significand ≠ 0 ∧ !e.negative then none else some (signed (Binary64.zero false))

def value? (l : Literal) : Option Number :=
  let (significand, _, skipped) := takeDigits 0 0 l.whole
  match l.fraction, l.exponent with
  | none, none =>
    if skipped > 0 then l.float? significand skipped
    else if !l.negative then some (.int significand)
    -- With a minus, zero and what 64 bits do not hold are no integers.
    else if 1 ≤ significand ∧ significand ≤ Nat.pow 2 63 then some (.int (-significand))
    else some (.float (Binary64.ofNat significand).neg)
  | none, some _ => l.float? significand skipped
  | some ds, _ =>
    let (significand, taken, _) := takeDigits significand 0 ds
    l.float? significand ((skipped : Int) - taken)

end Literal

/-- Plain notation from `1e-5` to below `1e16`, with at least one decimal. -/
def floatStyle : DecimalStyle :=
  { leastPoint := -4, greatestPoint := 16, pointZero := true }

def Number.toText : Number → String
  | .int i => toString i
  | .float x => floatStyle.write x

end TaskDesk.Json
