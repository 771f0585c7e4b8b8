import TaskDesk.Number.Shortest

/-!
# Sizes for people

A count of bytes as a number of at most two decimals and a unit: `0 B`, `1.5 KB`, `12.25 MB`.
The count becomes a `binary64` number, is divided by 1024 until it is below 1024 or gigabytes are
reached, and is rounded to hundredths with a half going up.

## Main definitions

* `ByteSize.scaled`: the number and the unit.
* `ByteSize.text`: the label.
-/

namespace TaskDesk.ByteSize

/-- The units that a size can be in. -/
inductive SizeUnit where
  | bytes
  | kilobytes
  | megabytes
  | gigabytes
deriving DecidableEq, Repr

namespace SizeUnit

def label : SizeUnit → String
  | bytes => "B"
  | kilobytes => "KB"
  | megabytes => "MB"
  | gigabytes => "GB"

/-- The next larger unit, if there is one. -/
def next? : SizeUnit → Option SizeUnit
  | bytes => some kilobytes
  | kilobytes => some megabytes
  | megabytes => some gigabytes
  | gigabytes => none

/-- How often the count was divided by 1024. -/
def rank : SizeUnit → Nat
  | bytes => 0
  | kilobytes => 1
  | megabytes => 2
  | gigabytes => 3

end SizeUnit

/-- The number divided by 1024. -/
def kibi (x : Binary64) : Binary64 :=
  (x.div? (Binary64.ofNat 1024)).getD x

/-- Divides by 1024 as long as that leaves at least one and a larger unit exists; `steps` bounds
the number of units that are left. -/
def scaleFrom (x : Binary64) (u : SizeUnit) : Nat → Binary64 × SizeUnit
  | 0 => (x, u)
  | steps + 1 =>
    match u.next? with
    | some larger => if x.atLeast 1024 then scaleFrom (kibi x) larger steps else (x, u)
    | none => (x, u)

/-- The number to print, not rounded yet, and its unit. -/
def scaled (bytes : Nat) : Binary64 × SizeUnit :=
  scaleFrom (Binary64.ofNat bytes) .bytes 3

/-- Rounds to hundredths: the product with a hundred, to a whole number with a half going up,
divided by a hundred. -/
def hundredths (x : Binary64) : Binary64 :=
  let hundred := Binary64.ofNat 100
  match x.mul? hundred with
  | none => x
  | some y => ((Binary64.ofNat y.nearestUp).div? hundred).getD x

/-- Plain notation at any size, without a point for whole numbers. -/
def style : DecimalStyle :=
  { leastPoint := -400, greatestPoint := 400, pointZero := false }

def text (bytes : Nat) : String :=
  if bytes = 0 then "0 B"
  else
    let (x, u) := scaled bytes
    style.write (hundredths x) ++ " " ++ u.label

end TaskDesk.ByteSize
