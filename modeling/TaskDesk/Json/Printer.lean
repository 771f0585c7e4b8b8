import TaskDesk.Json.Value

/-!
# Compact JSON text

A value is written without blanks. In strings only the quote, the backslash and the control
characters below U+0020 are escaped, five of those with a letter and the others as `\u00xx`.

## Main definitions

* `Json.quote`: the literal of a string.
* `Json.toText`: the text of a value.
-/

namespace TaskDesk.Json

/-- What stands for a character inside a string literal. -/
def escapeChar (c : Char) : List Char :=
  match c with
  | '"' => ['\\', '"']
  | '\\' => ['\\', '\\']
  | '\n' => ['\\', 'n']
  | '\r' => ['\\', 'r']
  | '\t' => ['\\', 't']
  | c =>
    if c.toNat = 8 then ['\\', 'b']
    else if c.toNat = 12 then ['\\', 'f']
    else if c.toNat < 32 then
      ['\\', 'u', '0', '0', (c.toNat / 16).digitChar, (c.toNat % 16).digitChar]
    else [c]

def quote (s : String) : String :=
  String.ofList ('"' :: s.toList.flatMap escapeChar ++ ['"'])

mutual

def toText : Json → String
  | .null => "null"
  | .bool true => "true"
  | .bool false => "false"
  | .num n => n.toText
  | .str s => quote s
  | .arr items => "[" ++ itemsText items ++ "]"
  | .obj members => "\x7b" ++ membersText members ++ "\x7d"

/-- The texts of the items, with commas between them. -/
def itemsText : List Json → String
  | [] => ""
  | [v] => v.toText
  | v :: w :: rest => v.toText ++ "," ++ itemsText (w :: rest)

/-- The texts of the members, with commas between them. -/
def membersText : List (String × Json) → String
  | [] => ""
  | [(k, v)] => quote k ++ ":" ++ v.toText
  | (k, v) :: m :: rest => quote k ++ ":" ++ v.toText ++ "," ++ membersText (m :: rest)

end

end TaskDesk.Json
