import TaskDesk.Ron.Lexeme

/-!
# Numbers in RON text

Integers may have a sign, a base, underscores between their digits and a suffix that names
their type. Two points make a range of the numbers around them, where the text is not asked for
one number.

## Main definitions

* `Ron.IntegerType`, `Ron.unsigned?`: the value of an unsigned integer.
* `Ron.skipNumber?`: what follows a number of any kind.
* `Ron.skipRange?`: what follows a number or a range.
-/

namespace TaskDesk.Ron


/-- A type of integers. -/
structure IntegerType where
  bits : Nat
  signed : Bool
deriving DecidableEq, Repr

namespace IntegerType

def suffix (t : IntegerType) : String :=
  (if t.signed then "i" else "u") ++ toString t.bits

def all : List IntegerType :=
  [⟨8, true⟩, ⟨16, true⟩, ⟨32, true⟩, ⟨64, true⟩, ⟨8, false⟩, ⟨16, false⟩, ⟨32, false⟩, ⟨64, false⟩]

/-- A magnitude with its sign is a value of the type. -/
def holds (t : IntegerType) (negative : Bool) (n : Nat) : Bool :=
  match t.signed, negative with
  | true, true => n ≤ Nat.pow 2 (t.bits - 1)
  | true, false => n < Nat.pow 2 (t.bits - 1)
  | false, true => n == 0
  | false, false => n < Nat.pow 2 t.bits

end IntegerType

/-- The character may stand in an integer of some base. -/
def isDigitOrMark (c : Char) : Bool :=
  (Hex.digitValue? c).isSome || c == '_'

/-- The base that a mark at the front names, and what follows the mark. -/
def base (cs : List Char) : Nat × List Char :=
  match cs with
  | '0' :: 'b' :: rest => (2, rest)
  | '0' :: 'o' :: rest => (8, rest)
  | '0' :: 'x' :: rest => (16, rest)
  | rest => (10, rest)

def digitsValue? (base : Nat) : (value : Nat) → List Char → Option Nat
  | value, [] => some value
  | value, c :: cs =>
    if c = '_' then digitsValue? base value cs
    else
      match Hex.digitValue? c with
      | some d => if d < base then digitsValue? base (value * base + d) cs else none
      | none => none

def magnitude? (cs : List Char) : Option (Nat × List Char) :=
  let (base, cs) := base cs
  match cs.takeWhile isDigitOrMark with
  | [] => none
  | '_' :: _ => none
  | digits => (digitsValue? base 0 digits).map fun n => (n, cs.dropWhile isDigitOrMark)

/-- A sign; says whether it is a minus. -/
def sign : List Char → Bool × List Char
  | '+' :: rest => (false, rest)
  | '-' :: rest => (true, rest)
  | rest => (false, rest)

/-- The type that the suffix of a magnitude names. -/
def suffixType? (cs : List Char) : Option IntegerType :=
  let rest := (base cs).2.dropWhile isDigitOrMark
  IntegerType.all.find? fun t => (keyword? t.suffix rest).isSome

/-- An integer with its sign: a value of `type`, or of the type that its suffix names. -/
def integer? (type : IntegerType) (cs : List Char) : Option ((Nat × IntegerType) × List Char) := do
  let (negative, cs) := sign cs
  match suffixType? cs with
  | some t =>
    let (n, rest) ← magnitude? cs
    let rest ← keyword? t.suffix rest
    if t.holds negative n then some ((n, t), rest) else none
  | none =>
    let (n, rest) ← magnitude? cs
    if type.holds negative n then some ((n, type), rest) else none

/-- An unsigned integer; a suffix has to name the type that is asked for. -/
def unsigned? (bits : Nat) (cs : List Char) : Option (Nat × List Char) := do
  let ((n, t), rest) ← integer? ⟨bits, false⟩ cs
  if t = ⟨bits, false⟩ then some (n, rest) else none

/-! ## Numbers whose value does not matter -/

/-- The character may stand in a number with a point or an exponent. -/
def isFloatChar (c : Char) : Bool :=
  c.isDigit || c == 'e' || c == 'E' || c == '.' || c == '+' || c == '-' || c == '_'

/-- Splits off what may belong to a number with a point or an exponent; two points end it. -/
def splitFloat : List Char → List Char × List Char
  | '.' :: '.' :: rest => ([], '.' :: '.' :: rest)
  | c :: cs =>
    if isFloatChar c then
      let (digits, rest) := splitFloat cs
      (c :: digits, rest)
    else ([], c :: cs)
  | [] => ([], [])

/-- Underscores only follow digits or other underscores of the same part. -/
def underscoresFit : (allowed : Bool) → List Char → Bool
  | _, [] => true
  | allowed, c :: cs =>
    if c = '_' then allowed && underscoresFit allowed cs
    else if c.isDigit || c == 'e' || c == 'E' then underscoresFit true cs
    else if c = '.' then underscoresFit false cs
    else underscoresFit allowed cs

/-- Digits with at most one point between them and an exponent after them. -/
def isDecimal (cs : List Char) : Bool :=
  let cs := (sign cs).2
  let whole := cs.takeWhile Char.isDigit
  let (fraction, cs) :=
    match cs.dropWhile Char.isDigit with
    | '.' :: rest => (rest.takeWhile Char.isDigit, rest.dropWhile Char.isDigit)
    | rest => ([], rest)
  let exponent : Bool :=
    match cs with
    | [] => true
    | c :: rest =>
      let digits := (sign rest).2
      (c == 'e' || c == 'E') && !digits.isEmpty && digits.all Char.isDigit
  !(whole.isEmpty && fraction.isEmpty) && exponent

/-- The words for numbers that are not finite. -/
def nonFiniteWords : List String :=
  ["inf", "NaN"].flatMap fun word => [word, word ++ "f32", word ++ "f64"]

/-- What follows a word for a number that is not finite, with a sign before it if there is one. -/
def skipNonFinite? (cs : List Char) : Option (List Char) :=
  let cs := (sign cs).2
  nonFiniteWords.findSome? fun word => keyword? word cs

/-- What follows a number with a point or an exponent. -/
def skipFloat? (cs : List Char) : Option (List Char) :=
  match skipNonFinite? cs with
  | some rest => some rest
  | none =>
    let (digits, rest) := splitFloat cs
    if underscoresFit false digits ∧ isDecimal (digits.filter (· ≠ '_')) then
      match keyword? "f32" rest, keyword? "f64" rest with
      | some rest, _ => some rest
      | none, some rest => some rest
      | none, none => some rest
    else none

/-- The number runs further if points, exponents and signs count. -/
def looksFloat (cs : List Char) : Bool :=
  let cs := (sign cs).2
  (cs.takeWhile isDigitOrMark).length < (splitFloat cs).1.length

def skipByte? : List Char → Option (List Char)
  | 'b' :: '\'' :: '\\' :: cs => do
    let (_, rest) ← byteEscape? cs
    ['\''].isPrefixOf? rest
  | 'b' :: '\'' :: c :: '\'' :: rest => if c.toNat < 0x80 then some rest else none
  | _ => none

/-- What follows a number of any kind. An integer that no type holds is read as one with a
point. -/
def skipNumber? (cs : List Char) : Option (List Char) :=
  if looksFloat cs then skipFloat? cs
  else
    match skipByte? cs with
    | some rest => some rest
    | none =>
      match integer? ⟨64, (sign cs).1⟩ cs with
      | some (_, rest) => some rest
      | none => skipFloat? cs

/-- A number may begin here. -/
def startsNumber (cs : List Char) : Bool :=
  match cs with
  | 'b' :: '\'' :: _ => true
  | c :: _ =>
    c.isDigit || c == '+' || c == '-' || c == '.' || (skipNonFinite? cs).isSome
  | [] => false

/-- What follows a range, from after its first number on; a number alone is none, and stays. An
end that is part of the range has to be there. -/
def skipRangeEnd? (cs : List Char) : Option (List Char) :=
  match cs with
  | '.' :: '.' :: '=' :: rest => skipNumber? rest
  | '.' :: '.' :: rest => if startsNumber rest then skipNumber? rest else some rest
  | _ => some cs

/-- What follows a number of any kind or a range of numbers. -/
def skipRange? (cs : List Char) : Option (List Char) :=
  match cs with
  | '.' :: '.' :: _ => skipRangeEnd? cs
  | _ => (skipNumber? cs).bind skipRangeEnd?

end TaskDesk.Ron
