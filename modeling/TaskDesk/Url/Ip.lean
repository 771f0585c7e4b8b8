import TaskDesk.Text.Hex
import TaskDesk.Text.Scan

/-!
# Addresses made of numbers

A version 4 address is up to four numbers with dots between them, each decimal, octal after a
zero or hexadecimal after `0x`; the last number fills all bytes that are left. A version 6
address is eight numbers with colons between them; one double colon stands for zeros, and the
last two numbers may be written as a version 4 address.

## Main definitions

* `Ipv4.isMeant`, `Ipv4.parse?`.
* `Ipv6.parse?`.
-/

namespace TaskDesk

/-- The number that digits in a base stand for; none if one of them is no digit. -/
def digitsValue? (base : Nat) (cs : List Char) : Option Nat :=
  cs.foldl
    (fun value c => do
      let digit ← Hex.digitValue? c
      if digit < base then return (← value) * base + digit else none)
    (some 0)

namespace Ipv4

/-- Reads a number. A zero that stands alone in front of the digits asks for another base, also
if no digits follow. -/
def number? : List Char → Option Nat
  | [] => none
  | '0' :: 'x' :: digits | '0' :: 'X' :: digits => digitsValue? 16 digits
  | '0' :: digits => digitsValue? 8 digits
  | digits => digitsValue? 10 digits

/-- The parts between the dots; a dot at the end is followed by none. -/
def parts (text : List Char) : List (List Char) :=
  match (text.splitOn '.').reverse with
  | [] :: first :: rest => (first :: rest).reverse
  | reversed => reversed.reverse

/-- The text can only be meant as an address: its last part is a number or at least made of
digits. -/
def isMeant (text : List Char) : Bool :=
  match (parts text).getLast? with
  | none | some [] => false
  | some last => last.all Char.isDigit || (number? last).isSome

def parse? (text : List Char) : Option Nat := do
  let numbers ← (parts text).mapM number?
  let last ← numbers.getLast?
  let bytes := numbers.dropLast
  let room := Nat.pow 256 (4 - bytes.length)
  if bytes.length ≤ 3 ∧ bytes.all (· < 256) ∧ last < room then
    return bytes.foldl (fun value byte => value * 256 + byte) 0 * room + last
  else none

end Ipv4

namespace Ipv6

/-- A number of one to four hexadecimal digits. -/
def piece? (cs : List Char) : Option Nat :=
  if cs ≠ [] ∧ cs.length ≤ 4 then digitsValue? 16 cs else none

/-- A decimal number below 256 without a zero in front. -/
def byte? (cs : List Char) : Option Nat :=
  if cs = [] ∨ (cs.length > 1 ∧ cs.head? = some '0') then none
  else (digitsValue? 10 cs).filter (· < 256)

/-- Four bytes with dots between them as two pieces. -/
def quad? (cs : List Char) : Option (List Nat) := do
  match ← (cs.splitOn '.').mapM byte? with
  | [a, b, c, d] => return [a * 256 + b, c * 256 + d]
  | _ => none

/-- Reads pieces; the last one may be a quad if nothing follows. -/
def piecesOf? (last : Bool) : List (List Char) → Option (List Nat)
  | [] => some []
  | [text] =>
    match piece? text with
    | some piece => some [piece]
    | none => if last then quad? text else none
  | text :: rest => do return (← piece? text) :: (← piecesOf? last rest)

/-- The pieces with colons between them; an empty text has none. -/
def pieces? (last : Bool) (text : List Char) : Option (List Nat) :=
  if text = [] then some [] else piecesOf? last (text.splitOn ':')

/-- The eight pieces of the address that a text stands for. -/
def parse? (text : List Char) : Option (List Nat) :=
  match Text.splitAt? [':', ':'] text with
  | none => (pieces? true text).filter (·.length = 8)
  | some (front, back) => do
    let front ← pieces? false front
    let back ← pieces? true back
    let missing := 8 - (front.length + back.length)
    if missing = 0 then none else return front ++ List.replicate missing 0 ++ back

end Ipv6

end TaskDesk
