import TaskDesk.Ron.Number

/-!
# Records in RON text

A record is a list of named fields in round brackets, after its name if the text gives it.
Fields may be missing and may stand in any order, but not twice. A field that the record does
not know may have any value.

## Main definitions

* `Ron.attributes?`: what a text allows beyond the usual.
* `Ron.skipValue`: what follows a value of any kind.
* `Ron.Field`, `Ron.Record`, `Ron.Record.read?`: reading a record.
* `Ron.writeRecord`: a record with one field on each line.

## Design notes

Values nest up to a limit, which the text spends one by one; the limit makes the reader of values
a structural recursion. Each level knows the readers of what may stand inside it.
-/

namespace TaskDesk.Ron


/-- What a text allows by an attribute at its beginning. -/
structure Extensions where
  /-- The mark of a present optional value may be left out. -/
  implicitSome : Bool := false
  /-- The name of a record must be given. -/
  explicitNames : Bool := false
  /-- A present optional value may go without its own round brackets. -/
  openPresent : Bool := false
deriving DecidableEq, Repr, Inhabited

namespace Extensions

def add? (x : Extensions) (name : String) : Option Extensions :=
  if name = "implicit_some" then some { x with implicitSome := true }
  else if name = "explicit_struct_names" then some { x with explicitNames := true }
  else if name = "unwrap_variant_newtypes" then some { x with openPresent := true }
  else if name = "unwrap_newtypes" then some x
  else none

end Extensions

/-- Skips pieces of text that must all stand there, with blanks after each. -/
def skipAll : List String → List Char → Option (List Char)
  | [], cs => some cs
  | piece :: pieces, cs => do
    let rest ← piece.toList.isPrefixOf? cs
    let rest ← skipBlank rest
    skipAll pieces rest

/-- The names in an attribute, up to its closing bracket. -/
def attributeNames? (x : Extensions) : (fuel : Nat) → List Char → Option (Extensions × List Char)
  | 0, _ => none
  | fuel + 1, cs => do
    let (name, rest) ← identifier? cs
    let x ← x.add? name
    let (comma, rest) ← skipComma rest
    if comma ∧ (rest.head?.map isNameStart).getD false then attributeNames? x fuel rest
    else some (x, rest)

/-- What follows an attribute that says what the text is for, from its name on. -/
def skipDescription (cs : List Char) : Option (List Char) := do
  let rest ← (skipAll ["type", "="] cs).or (skipAll ["schema", "="] cs)
  let (_, rest) ← string? rest
  let rest ← skipBlank rest
  skipAll ["]"] rest

/-- The attributes at the beginning of a text. -/
def attributes? (x : Extensions) : (fuel : Nat) → List Char → Option (Extensions × List Char)
  | 0, _ => none
  | fuel + 1, cs =>
    match cs with
    | '#' :: _ => do
      let cs ← skipAll ["#", "!", "["] cs
      match skipAll ["enable", "("] cs with
      | some rest =>
        let (x, rest) ← attributeNames? x rest.length rest
        let rest ← skipAll [")", "]"] rest
        attributes? x fuel rest
      | none =>
        let rest ← skipDescription cs
        attributes? x fuel rest
    | _ => some (x, cs)

/-- Reads entries with commas between them up to a closing character; a comma may follow the last
one. -/
def entries? {σ : Type} (entry : σ → List Char → Option (σ × List Char)) (close : Char) :
    (fuel : Nat) → σ → List Char → Option (σ × List Char)
  | 0, _, _ => none
  | fuel + 1, s, cs => do
    let cs ← skipBlank cs
    match [close].isPrefixOf? cs with
    | some rest => some (s, rest)
    | none => do
      let (s, rest) ← entry s cs
      let (comma, rest) ← skipComma rest
      if comma then entries? entry close fuel s rest
      else ([close].isPrefixOf? rest).map fun rest => (s, rest)

/-- Reads a colon and the blanks around it. -/
def skipColon (cs : List Char) : Option (List Char) := do
  let cs ← skipBlank cs
  let cs ← [':'].isPrefixOf? cs
  skipBlank cs

/-! ## Values of any kind -/

/-- What follows entries that are skipped one by one. -/
def skipEntries (entry : List Char → Option (List Char)) (close : Char) (cs : List Char) :
    Option (List Char) :=
  (entries? (fun _ cs => (entry cs).map fun rest => ((), rest)) close (cs.length + 1) () cs).map
    Prod.snd

/-- After an opening bracket, a name and a colon follow. -/
def startsField (cs : List Char) : Bool :=
  let colon? : Option Bool := do
    let cs ← skipBlank cs
    let (_, rest) ← name? cs
    let rest ← skipBlank rest
    some (rest.head? = some ':')
  colon?.getD false

/-- Words that are values by themselves. -/
def valueWords : List String :=
  ["true", "false", "None"]

def skipField (value : List Char → Option (List Char)) (cs : List Char) : Option (List Char) := do
  let (_, rest) ← identifier? cs
  let rest ← skipColon rest
  value rest

/-- What follows a value in round brackets, from after the opening one. -/
def skipGroup (value : List Char → Option (List Char)) (cs : List Char) : Option (List Char) :=
  if startsField cs then skipEntries (skipField value) ')' cs
  else skipEntries value ')' cs

def skipPair (value : List Char → Option (List Char)) (cs : List Char) : Option (List Char) := do
  let rest ← value cs
  let rest ← skipColon rest
  value rest

/-- More than one value follows up to the bracket that closes `depth` brackets, or one value and no
more. -/
def hasSeveral? : (fuel : Nat) → (depth : Nat) → List Char → Option Bool
  | 0, _, _ => none
  | _ + 1, 0, _ => some false
  | fuel + 1, depth + 1, cs => do
    let cs ← skipBlank cs
    -- Brackets in characters, strings and comments do not count.
    let cs := ((character? cs).map Prod.snd).getD cs
    let cs := ((string? cs).map Prod.snd).getD cs
    let cs := (skipByteString? cs).getD cs
    match cs with
    | [] => none
    | c :: rest =>
      if c = '(' ∨ c = '[' ∨ c = '\x7b' then hasSeveral? fuel (depth + 2) rest
      else if c = ')' ∨ c = ']' ∨ c = '\x7d' then hasSeveral? fuel depth rest
      else if c = ',' ∧ depth = 0 then
        -- A comma before the closing bracket begins no other value.
        let rest ← skipBlank rest
        if rest.head? = some ')' then hasSeveral? fuel 1 rest else some true
      else hasSeveral? fuel (depth + 1) rest

/-- What stands in the round brackets of a present value that needs none of its own. -/
inductive Content where
  | nothing
  | fields
  | several
  /-- One value, as usual. -/
  | value
deriving DecidableEq, Repr

/-- What stands in round brackets, from after the opening one. -/
def Content.of? (cs : List Char) : Option Content := do
  if cs.head? = some ')' then some .nothing
  else
    let scan (cs : List Char) : Option Content :=
      (hasSeveral? (cs.length + 2) 1 cs).map fun several => if several then .several else .value
    match name? cs with
    | none => scan cs
    | some (_, rest) =>
      match ← skipBlank rest with
      | ':' :: _ => some .fields
      | ',' :: rest =>
        let rest ← skipBlank rest
        some (if rest.head? = some ')' then .value else .several)
      | ')' :: _ => some .value
      | rest => scan rest

/-- What follows a present value and the bracket that closes it, from after the opening one.
`value` skips one value, and `inside` a value inside brackets that are left out. -/
def skipPresent (x : Extensions) (inside : Option (List Char → Option (List Char)))
    (value : List Char → Option (List Char)) (cs : List Char) : Option (List Char) := do
  let cs ← skipBlank cs
  let content ← if x.openPresent then Content.of? cs else some .value
  match content with
  | .nothing => [')'].isPrefixOf? cs
  | .fields =>
    let value ← inside
    skipEntries (skipField value) ')' cs
  | .several =>
    let value ← inside
    skipEntries value ')' cs
  | .value =>
    let rest ← value cs
    let (_, rest) ← skipComma rest
    [')'].isPrefixOf? rest

/-- The readers of one level of nesting. -/
structure Level where
  /-- Skips a value. -/
  value : List Char → Option (List Char)
  /-- Skips a value one level further in. -/
  element : List Char → Option (List Char)
  /-- Skips a value inside brackets, if there may be brackets at all. -/
  inside : Option (List Char → Option (List Char))

/-- What follows a value of any kind. `inside` skips a value inside brackets, if there may be
brackets at all; `below` is the level of a value that is marked as present, if there may be one. -/
def skipValueWith (x : Extensions) (inside : Option (List Char → Option (List Char)))
    (below : Option Level) (cs : List Char) : Option (List Char) :=
  match valueWords.findSome? fun word => keyword? word cs with
  | some rest => some rest
  | none =>
    match keyword? "Some" cs with
    | some rest => do
      let below ← below
      match ← skipBlank rest with
      | '(' :: rest => skipPresent x below.inside below.value rest
      | rest => if x.implicitSome then below.value rest else none
    | none =>
      match ['(', ')'].isPrefixOf? cs, nonFiniteWords.findSome? fun word => keyword? word cs with
      | some rest, _ => some rest
      | none, some rest => skipRangeEnd? rest
      | none, none =>
        match name? cs with
        | some (_, rest) => do
          match ← skipBlank rest with
          | '(' :: rest =>
            let value ← inside
            skipGroup value rest
          | rest => some rest
        | none =>
          match cs with
          | [] => none
          | '(' :: rest => inside.bind fun value => skipGroup value rest
          | '[' :: rest => inside.bind fun value => skipEntries value ']' rest
          | '\x7b' :: rest => inside.bind fun value => skipEntries (skipPair value) '\x7d' rest
          | '"' :: _ => (string? cs).map Prod.snd
          | 'r' :: _ => (string? cs).map Prod.snd
          | 'b' :: '\'' :: _ => skipRange? cs
          | 'b' :: _ => skipByteString? cs
          | '\'' :: _ => (character? cs).map Prod.snd
          | c :: _ =>
            if c.isDigit || c == '+' || c == '-' || c == '.' then skipRange? cs else none

/-- The level with a given limit. Brackets cost two of it, one for themselves and one for what is
inside; the mark of a present value costs one. -/
def Level.ofLimit (x : Extensions) : (limit : Nat) → Level
  | 0 => { value := skipValueWith x none none, element := fun _ => none, inside := none }
  | limit + 1 =>
    let below := Level.ofLimit x limit
    let inside := some below.element
    { value := skipValueWith x inside (some below), element := below.value, inside }

/-- What follows a value of any kind that nests up to a limit. -/
def skipValue (x : Extensions) (limit : Nat) : List Char → Option (List Char) :=
  (Level.ofLimit x limit).value

/-! ## Typed records -/

/-- How deep values may nest in a whole text. -/
def nestingLimit : Nat := 128

/-- A field of a record that is read into `σ`. -/
structure Field (σ : Type) where
  name : String
  read : Extensions → List Char → Option ((σ → σ) × List Char)

namespace Field

variable {σ : Type}

def text (name : String) (set : String → σ → σ) : Field σ where
  name
  read _ cs := (string? cs).map fun (s, rest) => (set s, rest)

def unsigned (bits : Nat) (name : String) (set : Nat → σ → σ) : Field σ where
  name
  read _ cs := (unsigned? bits cs).map fun (n, rest) => (set n, rest)

/-- A field that holds one of some words. -/
def word {α : Type} (name : String) (words : List (String × α)) (set : α → σ → σ) : Field σ where
  name
  read _ cs := do
    let (word, rest) ← identifier? cs
    let a ← words.lookup word
    some (set a, rest)

/-- A field that holds a string or nothing. -/
def optionalText (name : String) (set : Option String → σ → σ) : Field σ where
  name
  read x cs :=
    let present (cs : List Char) : Option ((σ → σ) × List Char) :=
      (string? cs).map fun (s, rest) => (set (some s), rest)
    match keyword? "None" cs with
    | some rest => some (set none, rest)
    | none =>
      match keyword? "Some" cs with
      | some rest => do
        match ← skipBlank rest with
        | '(' :: rest =>
          let rest ← skipBlank rest
          let (f, rest) ← present rest
          let (_, rest) ← skipComma rest
          let rest ← [')'].isPrefixOf? rest
          some (f, rest)
        | rest => if x.implicitSome then present rest else none
      | none => if x.implicitSome then present cs else none

end Field

/-- A record: its name and its fields. -/
structure Record (σ : Type) where
  name : String
  fields : List (Field σ)

namespace Record

variable {σ : Type}

/-- Reads one field. The state holds the names of the known fields that were read. -/
def entry? (r : Record σ) (x : Extensions) (s : List String × σ) (cs : List Char) :
    Option ((List String × σ) × List Char) := do
  let (name, rest) ← identifier? cs
  let rest ← skipColon rest
  match r.fields.find? (·.name = name) with
  | some field =>
    if s.1.contains name then none
    else
      let (set, rest) ← field.read x rest
      some ((name :: s.1, set s.2), rest)
  | none =>
    let rest ← skipValue x (nestingLimit - 2) rest
    some (s, rest)

/-- Skips the name of the record, if the text gives it. -/
def skipName (r : Record σ) (x : Extensions) (cs : List Char) : Option (List Char) :=
  match cs with
  | c :: _ =>
    if isIdentifierPart c then do
      let (name, rest) ← identifier? cs
      if name = r.name then some rest else none
    else if x.explicitNames then none
    else some cs
  | [] => none

/-- Reads a text that is one record; fields that are missing stay as in `start`. -/
def read? (r : Record σ) (start : σ) (text : String) : Option σ := do
  let cs ← skipBlank text.toList
  let (x, cs) ← attributes? {} (cs.length + 1) cs
  let cs ← r.skipName x cs
  let cs ← skipBlank cs
  let cs ← ['('].isPrefixOf? cs
  let ((_, value), rest) ← entries? (r.entry? x) ')' (cs.length + 1) ([], start) cs
  match ← skipBlank rest with
  | [] => some value
  | _ => none

end Record

/-- Writes a record with one field on each line. -/
def writeRecord (fields : List (String × String)) : String :=
  "(\n" ++ String.join (fields.map fun (name, value) => "    " ++ name ++ ": " ++ value ++ ",\n") ++
    ")"

def writeOptional : Option String → String
  | some s => "Some(" ++ quote s ++ ")"
  | none => "None"

end TaskDesk.Ron
