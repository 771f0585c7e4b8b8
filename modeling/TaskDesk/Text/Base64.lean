/-!
# Base64

The standard alphabet in groups of four characters for three bytes. Padding is required and
canonical: a text whose length is no multiple of four, a stray `=` or an unused bit that is not
zero makes the text unreadable, so every byte string has one written form.

## Main definitions

* `Base64.encode`: bytes to text.
* `Base64.decode?`: text to bytes, if the text is a written form.
-/

namespace TaskDesk.Base64

def digitChar (n : Nat) : Char :=
  if n < 26 then Char.ofNat (65 + n)
  else if n < 52 then Char.ofNat (97 + (n - 26))
  else if n < 62 then Char.ofNat (48 + (n - 52))
  else if n = 62 then '+'
  else '/'

/-- The six-bit value of a character of the alphabet. -/
def digitValue? (c : Char) : Option Nat :=
  let n := c.toNat
  if 65 ≤ n ∧ n ≤ 90 then some (n - 65)
  else if 97 ≤ n ∧ n ≤ 122 then some (n - 97 + 26)
  else if 48 ≤ n ∧ n ≤ 57 then some (n - 48 + 52)
  else if c = '+' then some 62
  else if c = '/' then some 63
  else none

theorem digitValue?_digitChar {n : Nat} (h : n < 64) : digitValue? (digitChar n) = some n := by
  revert n; decide

/-- Writes the bytes after what is written already. -/
def encodeAfter (written : String) : List UInt8 → String
  | [] => written
  | [a] =>
    (((written.push (digitChar (a.toNat / 4))).push (digitChar (a.toNat % 4 * 16))).push
      '=').push '='
  | [a, b] =>
    (((written.push (digitChar (a.toNat / 4))).push
      (digitChar (a.toNat % 4 * 16 + b.toNat / 16))).push
      (digitChar (b.toNat % 16 * 4))).push '='
  | a :: b :: c :: rest =>
    encodeAfter
      ((((written.push (digitChar (a.toNat / 4))).push
        (digitChar (a.toNat % 4 * 16 + b.toNat / 16))).push
        (digitChar (b.toNat % 16 * 4 + c.toNat / 64))).push (digitChar (c.toNat % 64)))
      rest

def encode (bytes : List UInt8) : String :=
  encodeAfter "" bytes

/-- Reads groups of four characters; only the last group may be padded. -/
def decodeChars? : List Char → Option (List UInt8)
  | [] => some []
  | a :: b :: c :: d :: rest => do
    let x ← digitValue? a
    let y ← digitValue? b
    let first := UInt8.ofNat (x * 4 + y / 16)
    if c = '=' then
      if d = '=' ∧ rest = [] ∧ y % 16 = 0 then some [first] else none
    else
      let z ← digitValue? c
      let second := UInt8.ofNat (y % 16 * 16 + z / 4)
      if d = '=' then
        if rest = [] ∧ z % 4 = 0 then some [first, second] else none
      else
        let w ← digitValue? d
        let tail ← decodeChars? rest
        some (first :: second :: UInt8.ofNat (z % 4 * 64 + w) :: tail)
  | _ => none

/-- The bytes whose written form the text is. -/
def decode? (text : String) : Option (List UInt8) :=
  decodeChars? text.toList

end TaskDesk.Base64
