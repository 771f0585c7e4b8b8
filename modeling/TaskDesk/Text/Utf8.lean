/-!
# UTF-8

Reading UTF-8 from bytes that may be anything. The reader goes through the bytes once and keeps
only the sequence it is in the middle of, so it also says where a text may be cut. A sequence
that breaks off, or a byte that can begin none, is one ill-formed piece; the byte that broke the
sequence off is read again as the beginning of the next one.

## Main definitions

* `Utf8.encode`: text to bytes.
* `Utf8.pieces`: the characters and the ill-formed pieces of a byte string, in order.
* `Utf8.decode?`: the text, if nothing is ill-formed.
* `Utf8.decodeLossy`: the text with U+FFFD for every ill-formed piece.
-/

namespace TaskDesk.Utf8

def encode (s : String) : List UInt8 :=
  s.toList.flatMap String.utf8EncodeChar

/-- A sequence that is not complete: the bits read, how many bytes are missing, and the range
that the next of them has to be in. -/
structure Pending where
  bits : Nat
  missing : Nat
  low : Nat
  high : Nat
deriving DecidableEq, Repr

/-- What a byte at the beginning of a sequence is. -/
inductive Lead where
  | whole (c : Char)
  | opens (p : Pending)
  | illFormed

/-- Classifies a first byte. The narrowed ranges exclude overlong forms, surrogates and values
beyond U+10FFFF. -/
def lead (b : UInt8) : Lead :=
  let n := b.toNat
  if n < 0x80 then .whole (Char.ofNat n)
  else if n < 0xC2 then .illFormed
  else if n < 0xE0 then .opens ⟨n - 0xC0, 1, 0x80, 0xBF⟩
  else if n = 0xE0 then .opens ⟨0, 2, 0xA0, 0xBF⟩
  else if n = 0xED then .opens ⟨0xD, 2, 0x80, 0x9F⟩
  else if n < 0xF0 then .opens ⟨n - 0xE0, 2, 0x80, 0xBF⟩
  else if n = 0xF0 then .opens ⟨0, 3, 0x90, 0xBF⟩
  else if n < 0xF4 then .opens ⟨n - 0xF0, 3, 0x80, 0xBF⟩
  else if n = 0xF4 then .opens ⟨4, 3, 0x80, 0x8F⟩
  else .illFormed

/-- Reads one byte: the pieces it completes, last first, put before `done`, and the sequence it
leaves open. -/
def step (done : List (Option Char)) (pending : Option Pending) (b : UInt8) :
    List (Option Char) × Option Pending :=
  let first (done : List (Option Char)) : List (Option Char) × Option Pending :=
    match lead b with
    | .whole c => (some c :: done, none)
    | .opens p => (done, some p)
    | .illFormed => (none :: done, none)
  match pending with
  | none => first done
  | some p =>
    let n := b.toNat
    if p.low ≤ n ∧ n ≤ p.high then
      let bits := p.bits * 64 + (n - 0x80)
      if p.missing ≤ 1 then (some (Char.ofNat bits) :: done, none)
      else (done, some ⟨bits, p.missing - 1, 0x80, 0xBF⟩)
    -- The sequence ends here, and the byte may begin another one.
    else first (none :: done)

/-- Reads all bytes; `done` is what was read before, last first. -/
def piecesFrom (done : List (Option Char)) (pending : Option Pending) :
    List UInt8 → List (Option Char)
  | [] =>
    match pending with
    | none => done.reverse
    | some _ => (none :: done).reverse
  | b :: bs =>
    let (done, pending) := step done pending b
    piecesFrom done pending bs

/-- The characters and, as `none`, the ill-formed pieces of a byte string. -/
def pieces (bytes : List UInt8) : List (Option Char) :=
  piecesFrom [] none bytes

/-- The text, with U+FFFD for every ill-formed piece. -/
def decodeLossy (bytes : List UInt8) : String :=
  String.ofList ((pieces bytes).map (·.getD '\uFFFD'))

/-- The text, if nothing is ill-formed. -/
def decode? (bytes : List UInt8) : Option String :=
  let ps := pieces bytes
  if ps.all Option.isSome then some (String.ofList (ps.filterMap id)) else none

end TaskDesk.Utf8
