/-!
# Punycode

Text beyond ASCII written in ASCII: the plain characters first, then a number for every other
one, which says how far to go on in the code points and in the text before it is inserted.

## Main definitions

* `Punycode.decode?`: the text behind a written form.

## Design notes

Reading a number uses up at least one digit, so the reader goes down the rest of the text.
-/

namespace TaskDesk.Punycode

/-- The value of a digit in base 36. -/
def digitValue? (c : Char) : Option Nat :=
  let n := c.toNat
  if 97 ≤ n ∧ n ≤ 122 then some (n - 97)
  else if 65 ≤ n ∧ n ≤ 90 then some (n - 65)
  else if 48 ≤ n ∧ n ≤ 57 then some (n - 22)
  else none

/-- The value from which on a digit at a position is not the last one. -/
def threshold (position bias : Nat) : Nat :=
  min 26 (max 1 (position - bias))

/-- Brings a distance down to the range that the bias is computed from; `fuel` bounds how often
it is divided. -/
def settle : (fuel : Nat) → (distance position : Nat) → Nat
  | 0, _, position => position
  | fuel + 1, distance, position =>
    if distance > 455 then settle fuel (distance / 35) (position + 36)
    else position + 36 * distance / (distance + 38)

/-- The bias after a distance was read; `count` characters are there now. -/
def adapt (distance count : Nat) (first : Bool) : Nat :=
  let distance := distance / (if first then 700 else 2)
  settle 64 (distance + distance / count) 0

/-- The number being read and what was read before. -/
structure Progress where
  text : List Char
  /-- The code point and the place that were reached. -/
  code : Nat := 128
  place : Nat := 0
  bias : Nat := 72
  /-- The number being read: its value so far, the weight and the position of the next digit. -/
  distance : Nat := 0
  weight : Nat := 1
  position : Nat := 36
  first : Bool := true

namespace Progress

/-- Inserts the character that a number leads to. -/
def insert? (p : Progress) (distance : Nat) : Option Progress :=
  let count := p.text.length + 1
  let reached := p.place + distance
  let code := p.code + reached / count
  let place := reached % count
  if code > 0x10FFFF ∨ (0xD800 ≤ code ∧ code ≤ 0xDFFF) then none
  else
    some
      { text := p.text.take place ++ Char.ofNat code :: p.text.drop place
        code
        place := place + 1
        bias := adapt distance count p.first
        first := false }

/-- Numbers beyond this are not read. -/
def numberLimit : Nat := Nat.pow 2 32

def take? (p : Progress) (digit : Nat) : Option Progress :=
  let distance := p.distance + digit * p.weight
  let limit := threshold p.position p.bias
  let weight := p.weight * (36 - limit)
  if p.place + distance ≥ numberLimit then none
  else if digit < limit then p.insert? distance
  else if weight ≥ numberLimit then none
  else some { p with distance, weight, position := p.position + 36 }

/-- Takes all digits; the last number has to be complete. -/
def run? (p : Progress) : List Char → Option (List Char)
  | [] => if p.position = 36 then some p.text else none
  | c :: cs =>
    match (digitValue? c).bind p.take? with
    | none => none
    | some p => run? p cs

end Progress

/-- The plain characters, up to the last dash, and the digits after it. A dash that nothing
stands before does not divide them. -/
def split (written : List Char) : List Char × List Char :=
  let digits := (written.reverse.takeWhile (· ≠ '-')).reverse
  match (written.take (written.length - digits.length)).dropLast with
  | [] => ([], written)
  | plain => (plain, digits)

def decode? (written : List Char) : Option (List Char) :=
  let (plain, digits) := split written
  if plain.all (·.toNat < 128) then ({ text := plain } : Progress).run? digits else none

end TaskDesk.Punycode
