import TaskDesk.Ron.Blank
import TaskDesk.Text.Hex
import TaskDesk.Text.Identifier
import TaskDesk.Text.Scan
import TaskDesk.Text.Unprintable
import TaskDesk.Text.Utf8

/-!
# Names and strings in RON text

Each reader takes its piece from the front of the text and gives what follows.

## Main definitions

* `Ron.identifier?`, `Ron.keyword?`: names.
* `Ron.string?`, `Ron.character?`, `Ron.byteString?`: quoted text, with escapes or raw.
* `Ron.quote`: writes a string in a form that `Ron.string?` reads.
-/

namespace TaskDesk.Ron

open Text (splitAt?)

/-! ## Names -/

def isNameStart (c : Char) : Bool :=
  isIdentifierStart c || c == '_'

/-- The character may stand in a raw name. -/
def isRawPart (c : Char) : Bool :=
  isIdentifierPart c || c == '.' || c == '+' || c == '-'

/-- The text begins with the mark of a raw string or of bytes. -/
def startsLiteral (cs : List Char) : Bool :=
  ["b\"", "b'", "br#", "br\"", "r\"", "r#\"", "r##"].any fun mark =>
    mark.toList.isPrefixOf cs

/-- Splits a name off the front, whatever follows it. -/
def name? (cs : List Char) : Option (List Char × List Char) :=
  match cs with
  | [] => none
  | first :: _ =>
    if startsLiteral cs then none
    else
      match ['r', '#'].isPrefixOf? cs with
      | some raw =>
        let name := raw.takeWhile isRawPart
        if name.isEmpty then none else some (name, raw.dropWhile isRawPart)
      | none =>
        if isNameStart first then
          some (cs.takeWhile isIdentifierPart, cs.dropWhile isIdentifierPart)
        else none

/-- Splits a name off the front; one that is not raw must not run on into signs and points. -/
def identifier? (cs : List Char) : Option (String × List Char) := do
  let (name, rest) ← name? cs
  match ['r', '#'].isPrefixOf? cs, rest with
  | none, c :: _ => if isRawPart c then none else some (String.ofList name, rest)
  | _, _ => some (String.ofList name, rest)

/-- What follows a word that is not the beginning of a longer one. -/
def keyword? (word : String) (cs : List Char) : Option (List Char) :=
  match word.toList.isPrefixOf? cs with
  | some (c :: rest) => if isIdentifierPart c then none else some (c :: rest)
  | r => r

/-! ## Escapes -/

/-- Two hexadecimal digits. -/
def hexByte? : List Char → Option (UInt8 × List Char)
  | a :: b :: rest => do
    let x ← Hex.digitValue? a
    let y ← Hex.digitValue? b
    some (UInt8.ofNat (x * 16 + y), rest)
  | _ => none

/-- The character that some bytes are, if they are one. -/
def characterOfBytes? (bytes : List UInt8) : Option Char :=
  match (Utf8.decode? bytes).map String.toList with
  | some [c] => some c
  | _ => none

/-- Goes on with a character that is written as the bytes of its encoding, one escape for each;
at most `more` follow. -/
def byteEscapes? (bytes : List UInt8) : (more : Nat) → List Char → Option (Char × List Char)
  | 0, _ => none
  | more + 1, cs => do
    let cs ← ['\\', 'x'].isPrefixOf? cs
    let (b, rest) ← hexByte? cs
    let bytes := bytes ++ [b]
    match characterOfBytes? bytes with
    | some c => some (c, rest)
    | none => byteEscapes? bytes more rest

/-- Hexadecimal digits up to a closing brace, at most `room` of them. -/
def codeDigits? (value : Nat) : (room : Nat) → List Char → Option (Nat × List Char)
  | _, '\x7d' :: rest => some (value, rest)
  | room + 1, c :: rest => do
    let d ← Hex.digitValue? c
    codeDigits? (value * 16 + d) room rest
  | _, _ => none

/-- A character by its code point: one to six hexadecimal digits in braces. -/
def codeEscape? : List Char → Option (Char × List Char)
  | '\x7b' :: '\x7d' :: _ => none
  | '\x7b' :: cs => do
    let (code, rest) ← codeDigits? 0 6 cs
    if code.isValidChar then some (Char.ofNat code, rest) else none
  | _ => none

/-- The character that one letter after the backslash stands for. -/
def shortEscape? (c : Char) : Option Char :=
  if c = '\'' ∨ c = '"' ∨ c = '\\' then some c
  else if c = 'n' then some '\n'
  else if c = 'r' then some '\r'
  else if c = 't' then some '\t'
  else if c = '0' then some '\x00'
  else none

/-- An escape, without its backslash. With `joined`, several byte escapes may make up one
character. -/
def escape? (joined : Bool) : List Char → Option (Char × List Char)
  | 'x' :: cs => do
    let (b, rest) ← hexByte? cs
    if b < 0x80 then some (Char.ofNat b.toNat, rest)
    else if joined then byteEscapes? [b] 3 rest
    else none
  | 'u' :: cs => codeEscape? cs
  | c :: cs => (shortEscape? c).map fun e => (e, cs)
  | [] => none

/-- An escape that stands for a byte, without its backslash. -/
def byteEscape? : List Char → Option (UInt8 × List Char)
  | 'x' :: cs => hexByte? cs
  | 'u' :: _ => none
  | c :: cs => (shortEscape? c).map fun e => (UInt8.ofNat e.toNat, cs)
  | [] => none

/-! ## Quoted text -/

/-- What follows a line break that is taken away by a backslash before it: the blanks at the
beginning of the next line, and empty lines, go with it. -/
def joinedLine? (cs : List Char) : Option (List Char) :=
  let isJoined (c : Char) : Bool := c == ' ' || c == '\t' || c == '\n' || c == '\r'
  match cs with
  | '\n' :: rest => some (rest.dropWhile isJoined)
  | '\r' :: '\n' :: rest => some (rest.dropWhile isJoined)
  | _ => none

/-- Reads up to the closing quote; `escape` reads an escape. -/
def quoted? (escape : List Char → Option (List Char × List Char)) :
    (fuel : Nat) → List Char → Option (List Char × List Char)
  | 0, _ => none
  | _ + 1, [] => none
  | _ + 1, '"' :: rest => some ([], rest)
  | fuel + 1, '\\' :: cs =>
    match joinedLine? cs with
    | some rest => quoted? escape fuel rest
    | none => do
      let (these, rest) ← escape cs
      let (others, rest) ← quoted? escape fuel rest
      some (these ++ others, rest)
  | fuel + 1, c :: cs => do
    let (others, rest) ← quoted? escape fuel cs
    some (c :: others, rest)

/-- Reads a raw string from its hash marks on: it ends with a quote and as many hash marks. -/
def raw? (cs : List Char) : Option (List Char × List Char) :=
  let marks := cs.takeWhile (· == '#')
  match cs.dropWhile (· == '#') with
  | '"' :: body => splitAt? ('"' :: marks) body
  | _ => none

/-- A string, quoted or raw. -/
def string? : List Char → Option (String × List Char)
  | '"' :: cs => do
    let read := quoted? (fun cs => (escape? true cs).map fun (c, rest) => ([c], rest))
    let (text, rest) ← read (cs.length + 1) cs
    some (String.ofList text, rest)
  | 'r' :: cs => (raw? cs).map fun (text, rest) => (String.ofList text, rest)
  | _ => none

def skipByteString? : List Char → Option (List Char)
  | 'b' :: '"' :: cs =>
    let escape (cs : List Char) : Option (List Char × List Char) :=
      match byteEscape? cs, escape? false cs with
      | some (_, rest), _ => some ([], rest)
      | none, some (_, rest) => some ([], rest)
      | none, none => none
    (quoted? escape (cs.length + 1) cs).map Prod.snd
  | 'b' :: 'r' :: cs => (raw? cs).map Prod.snd
  | _ => none

def character? : List Char → Option (Char × List Char)
  | '\'' :: '\\' :: cs => do
    let (c, rest) ← escape? false cs
    let rest ← ['\''].isPrefixOf? rest
    some (c, rest)
  | '\'' :: c :: '\'' :: rest => some (c, rest)
  | _ => none

/-! ## Writing -/

/-- Writes a character of a string: the usual short escapes, a code point for what has no shape
of its own, and everything else as it is. -/
def escapeChar (c : Char) : List Char :=
  if c = '\x00' then ['\\', '0']
  else if c = '\t' then ['\\', 't']
  else if c = '\r' then ['\\', 'r']
  else if c = '\n' then ['\\', 'n']
  else if c = '\\' ∨ c = '\'' ∨ c = '"' then ['\\', c]
  else if isUnprintableChar c then
    ['\\', 'u', '\x7b'] ++ Nat.toDigits 16 c.toNat ++ ['\x7d']
  else [c]

def quote (s : String) : String :=
  String.ofList ('"' :: s.toList.flatMap escapeChar ++ ['"'])

end TaskDesk.Ron
