/-!
# Hexadecimal text

Bytes as pairs of lower-case digits, and numbers read from digits of either case.

## Main definitions

* `Hex.digitValue?`: the value of a digit.
* `Hex.encode`, `Hex.decode?`: byte strings.
-/

namespace TaskDesk.Hex

def digitValue? (c : Char) : Option Nat :=
  let n := c.toNat
  if 48 ≤ n ∧ n ≤ 57 then some (n - 48)
  else if 97 ≤ n ∧ n ≤ 102 then some (n - 87)
  else if 65 ≤ n ∧ n ≤ 70 then some (n - 55)
  else none

theorem digitValue?_digitChar {n : Nat} (h : n < 16) : digitValue? n.digitChar = some n := by
  revert n; decide

def encode (bytes : List UInt8) : String :=
  String.ofList (bytes.flatMap fun b => [(b.toNat / 16).digitChar, (b.toNat % 16).digitChar])

def decodeChars? : List Char → Option (List UInt8)
  | [] => some []
  | [_] => none
  | a :: b :: rest => do
    let x ← digitValue? a
    let y ← digitValue? b
    let tail ← decodeChars? rest
    some (UInt8.ofNat (x * 16 + y) :: tail)

/-- The bytes that a text of digit pairs stands for. -/
def decode? (text : String) : Option (List UInt8) :=
  decodeChars? text.toList

end TaskDesk.Hex
