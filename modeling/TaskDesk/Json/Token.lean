import TaskDesk.Json.Number
import TaskDesk.Text.Utf8
import TaskDesk.Text.Hex

/-!
# Tokens of JSON text

The text is read byte by byte; the scanner keeps the token it is in and the tokens before it.
A string literal that spells no Unicode text (a lone surrogate, ill-formed bytes) and a number
beyond the largest finite one are tokens without a value: they hurt only where the value is
wanted.

## Main definitions

* `Json.Token`.
* `Json.Scanner`, `Json.Scanner.step`: the scanner.
* `Json.tokens?`: all tokens of a text, if every byte belongs to one.
-/

namespace TaskDesk.Json

/-- A token. -/
inductive Token where
  | openArray
  | closeArray
  | openObject
  | closeObject
  | comma
  | colon
  | null
  | bool (value : Bool)
  | num (value : Option Number)
  | str (text : Option String)

/-- Splits digits off the front of a word. -/
def digitsOf (cs : List Char) : List Nat × List Char :=
  ((cs.takeWhile Char.isDigit).map (fun c => c.toNat - 48), cs.dropWhile Char.isDigit)

namespace Literal

/-- The exponent of a literal, which takes all of the text. -/
def exponentOf? (cs : List Char) : Option Exponent :=
  let (negative, cs) :=
    match cs with
    | '+' :: rest => (false, rest)
    | '-' :: rest => (true, rest)
    | rest => (false, rest)
  match digitsOf cs with
  | (d :: ds, []) => some ⟨negative, d :: ds⟩
  | _ => none

/-- The literal that a word is: an optional minus, a whole part without a leading zero, an
optional fraction of at least one digit, an optional exponent of at least one digit. -/
def ofWord? (cs : List Char) : Option Literal := do
  let (negative, cs) :=
    match cs with
    | '-' :: rest => (true, rest)
    | rest => (false, rest)
  let (whole, cs) ←
    match digitsOf cs with
    | ([], _) => none
    | (0 :: _ :: _, _) => none
    | (ds, rest) => some (ds, rest)
  let (fraction, cs) ←
    match cs with
    | '.' :: rest =>
      match digitsOf rest with
      | ([], _) => none
      | (ds, rest) => some (some ds, rest)
    | rest => some (none, rest)
  match cs with
  | [] => some ⟨negative, whole, fraction, none⟩
  | c :: rest =>
    if c = 'e' ∨ c = 'E' then
      (exponentOf? rest).map fun e => ⟨negative, whole, fraction, some e⟩
    else none

end Literal

/-- The token that a word of letters, digits, signs and points is. -/
def Token.ofWord? (cs : List Char) : Option Token :=
  if cs = ['n', 'u', 'l', 'l'] then some .null
  else if cs = ['t', 'r', 'u', 'e'] then some (.bool true)
  else if cs = ['f', 'a', 'l', 's', 'e'] then some (.bool false)
  else (Literal.ofWord? cs).map fun l => .num l.value?

/-- Where the scanner is inside a string literal. -/
inductive EscapePhase where
  | plain
  | backslash
  | hex (missing value : Nat)

/-- A string literal that is not closed yet: its bytes so far, last first, whether it can still
spell Unicode text, and a high surrogate that waits for its low one. -/
structure OpenString where
  bytes : List UInt8
  sound : Bool
  high : Option Nat
  phase : EscapePhase

namespace OpenString

/-- A literal just opened. -/
def empty : OpenString := ⟨[], true, none, .plain⟩

/-- A high surrogate that was not followed by a low one spells nothing. -/
def settle (s : OpenString) : OpenString :=
  { s with sound := s.sound && s.high.isNone, high := none }

def push (s : OpenString) (bytes : List UInt8) : OpenString :=
  let s := s.settle
  { s with bytes := bytes.reverse ++ s.bytes, phase := .plain }

/-- Adds the code unit of a `\u` escape. -/
def pushUnit (s : OpenString) (n : Nat) : OpenString :=
  match s.high with
  | some h =>
    if 0xDC00 ≤ n ∧ n < 0xE000 then
      let code := 0x10000 + (h - 0xD800) * 0x400 + (n - 0xDC00)
      { s with high := none }.push (String.utf8EncodeChar (Char.ofNat code))
    else if 0xD800 ≤ n ∧ n < 0xDC00 then
      -- The second of two high surrogates may still find its low one.
      { s with sound := false, high := some n, phase := .plain }
    else { s with sound := false, high := none }.push (String.utf8EncodeChar (Char.ofNat n))
  | none =>
    if 0xD800 ≤ n ∧ n < 0xDC00 then { s with high := some n, phase := .plain }
    -- A low surrogate alone spells nothing.
    else if 0xDC00 ≤ n ∧ n < 0xE000 then { s with sound := false, phase := .plain }
    else s.push (String.utf8EncodeChar (Char.ofNat n))

/-- The text of the literal, if it spells one. -/
def text? (s : OpenString) : Option String :=
  let s := s.settle
  if s.sound then Utf8.decode? s.bytes.reverse else none

end OpenString

/-- What the scanner is in the middle of. -/
inductive ScanMode where
  | between
  | word (reversed : List Char)
  | string (s : OpenString)

/-- The scanner: the tokens so far, last first, and what it is in the middle of. -/
structure Scanner where
  tokens : List Token
  mode : ScanMode

namespace Scanner

/-- Nothing read yet. -/
def empty : Scanner := ⟨[], .between⟩

/-- Letters, digits, signs and the point make up words. -/
def isWordByte (n : Nat) : Bool :=
  (48 ≤ n && n ≤ 57) || (65 ≤ n && n ≤ 90) || (97 ≤ n && n ≤ 122) ||
    n == 43 || n == 45 || n == 46

def stepBetween (tokens : List Token) (n : Nat) : Option Scanner :=
  if n = 32 ∨ n = 9 ∨ n = 10 ∨ n = 13 then some ⟨tokens, .between⟩
  else if n = 34 then some ⟨tokens, .string .empty⟩
  else if n = 0x5B then some ⟨.openArray :: tokens, .between⟩
  else if n = 0x5D then some ⟨.closeArray :: tokens, .between⟩
  else if n = 0x7B then some ⟨.openObject :: tokens, .between⟩
  else if n = 0x7D then some ⟨.closeObject :: tokens, .between⟩
  else if n = 0x2C then some ⟨.comma :: tokens, .between⟩
  else if n = 0x3A then some ⟨.colon :: tokens, .between⟩
  else if isWordByte n then some ⟨tokens, .word [Char.ofNat n]⟩
  else none

def stepString (tokens : List Token) (s : OpenString) (b : UInt8) : Option Scanner :=
  let n := b.toNat
  let continued (s : OpenString) : Option Scanner := some ⟨tokens, .string s⟩
  match s.phase with
  | .plain =>
    if n = 34 then some ⟨.str s.text? :: tokens, .between⟩
    else if n = 0x5C then continued { s with phase := .backslash }
    else if n < 32 then none
    else continued (s.push [b])
  | .backslash =>
    if n = 34 ∨ n = 0x5C ∨ n = 0x2F then continued (s.push [b])
    else if n = 98 then continued (s.push [8])
    else if n = 102 then continued (s.push [12])
    else if n = 110 then continued (s.push [10])
    else if n = 114 then continued (s.push [13])
    else if n = 116 then continued (s.push [9])
    else if n = 117 then continued { s with phase := .hex 4 0 }
    else none
  | .hex missing value =>
    match Hex.digitValue? (Char.ofNat n) with
    | none => none
    | some d =>
      let value := value * 16 + d
      if missing ≤ 1 then continued (s.pushUnit value)
      else continued { s with phase := .hex (missing - 1) value }

def step (scanner : Scanner) (b : UInt8) : Option Scanner :=
  match scanner.mode with
  | .between => stepBetween scanner.tokens b.toNat
  | .word reversed =>
    if isWordByte b.toNat then
      some { scanner with mode := .word (Char.ofNat b.toNat :: reversed) }
    else
      match Token.ofWord? reversed.reverse with
      | none => none
      | some t => stepBetween (t :: scanner.tokens) b.toNat
  | .string s => stepString scanner.tokens s b

/-- Reads bytes as long as they can be read. -/
def run (scanner : Scanner) : List UInt8 → Option Scanner
  | [] => some scanner
  | b :: bs =>
    match scanner.step b with
    | none => none
    | some next => run next bs

end Scanner

def tokens? (bytes : List UInt8) : Option (List Token) :=
  match Scanner.empty.run bytes with
  | none => none
  | some scanner =>
    match scanner.mode with
    | .between => some scanner.tokens.reverse
    | .word reversed =>
      (Token.ofWord? reversed.reverse).map fun t => (t :: scanner.tokens).reverse
    | .string _ => none

end TaskDesk.Json
