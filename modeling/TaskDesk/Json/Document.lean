import TaskDesk.Json.Token
import TaskDesk.Json.Value

/-!
# JSON documents

A document is JSON text by its structure: members in the order of the text with repeated keys
kept, strings and numbers without a value where their literals have none, and containers nested
without a limit. A *value* is what a document stands for if it is wanted whole: then strings and
numbers need values, of repeated keys the last one counts, and nesting is limited.

## Main definitions

* `Json.Document`.
* `Json.Document.parse?`: the document of a text.
* `Json.Document.value?`: the value of a document that is nested at most so deep.
* `Json.parse?`: the value of a text.

## Design notes

The builder is a stack machine over the tokens, so reading is one pass over a list and needs no
bound on the nesting.
-/

namespace TaskDesk.Json

/-- The structure of a JSON text. -/
inductive Document where
  | null
  | bool (value : Bool)
  | num (value : Option Number)
  | str (text : Option String)
  | arr (items : List Document)
  | obj (members : List (Option String × Document))
deriving Inhabited

namespace Document

/-- A container that is not closed yet; its parts so far, last first. -/
inductive Frame where
  | arr (items : List Document)
  | obj (members : List (Option String × Document)) (key : Option String)

/-- What may come next. -/
inductive Expect where
  /-- A value. -/
  | value
  /-- A value, or the end of the array just opened. -/
  | firstItem
  /-- A key, or the end of the object just opened. -/
  | firstKey (members : List (Option String × Document))
  /-- A key. -/
  | key (members : List (Option String × Document))
  /-- The colon after a key. -/
  | colon
  /-- A comma or the end of the innermost container. -/
  | separator
  /-- Nothing: the document is complete. -/
  | done (document : Document)

/-- The open containers, innermost first, and what may come next. The members of an object
whose key is awaited stand in the expectation. -/
structure Builder where
  frames : List Frame
  expect : Expect

namespace Builder

/-- Puts a complete document into the innermost container. -/
def deliver (d : Document) : List Frame → Builder
  | [] => ⟨[], .done d⟩
  | .arr items :: frames => ⟨.arr (d :: items) :: frames, .separator⟩
  | .obj members key :: frames => ⟨.obj ((key, d) :: members) none :: frames, .separator⟩

/-- Takes a token where a value may begin. -/
def beginValue (frames : List Frame) : Token → Option Builder
  | .openArray => some ⟨.arr [] :: frames, .firstItem⟩
  | .openObject => some ⟨frames, .firstKey []⟩
  | .null => some (deliver .null frames)
  | .bool b => some (deliver (.bool b) frames)
  | .num n => some (deliver (.num n) frames)
  | .str s => some (deliver (.str s) frames)
  | _ => none

def step (builder : Builder) (token : Token) : Option Builder :=
  match builder.expect, token with
  | .value, t => beginValue builder.frames t
  | .firstItem, .closeArray =>
    match builder.frames with
    | .arr items :: frames => some (deliver (.arr items.reverse) frames)
    | _ => none
  | .firstItem, t => beginValue builder.frames t
  | .firstKey members, .closeObject => some (deliver (.obj members.reverse) builder.frames)
  | .firstKey members, .str key => some ⟨.obj members key :: builder.frames, .colon⟩
  | .key members, .str key => some ⟨.obj members key :: builder.frames, .colon⟩
  | .colon, .colon => some ⟨builder.frames, .value⟩
  | .separator, .comma =>
    match builder.frames with
    | .arr _ :: _ => some ⟨builder.frames, .value⟩
    | .obj members _ :: frames => some ⟨frames, .key members⟩
    | [] => none
  | .separator, .closeArray =>
    match builder.frames with
    | .arr items :: frames => some (deliver (.arr items.reverse) frames)
    | _ => none
  | .separator, .closeObject =>
    match builder.frames with
    | .obj members _ :: frames => some (deliver (.obj members.reverse) frames)
    | _ => none
  | _, _ => none

def run (builder : Builder) : List Token → Option Builder
  | [] => some builder
  | t :: ts =>
    match builder.step t with
    | none => none
    | some next => run next ts

end Builder

/-- The document that a list of tokens makes up. -/
def ofTokens? (tokens : List Token) : Option Document :=
  match Builder.run ⟨[], .value⟩ tokens with
  | some ⟨_, .done d⟩ => some d
  | _ => none

def parse? (bytes : List UInt8) : Option Document :=
  (tokens? bytes).bind ofTokens?

mutual

/-- The value of a document whose containers are nested at most `depth` deep. -/
def value? (depth : Nat) : Document → Option Json
  | .null => some .null
  | .bool b => some (.bool b)
  | .num n => n.map .num
  | .str s => s.map .str
  | .arr items =>
    match depth with
    | 0 => none
    | depth + 1 => (values? depth items).map .arr
  | .obj members =>
    match depth with
    | 0 => none
    | depth + 1 => (memberValues? depth members).map Json.object

def values? (depth : Nat) : List Document → Option (List Json)
  | [] => some []
  | d :: ds =>
    match value? depth d with
    | none => none
    | some v => (values? depth ds).map (v :: ·)

def memberValues? (depth : Nat) :
    List (Option String × Document) → Option (List (String × Json))
  | [] => some []
  | (k, d) :: rest =>
    match k, value? depth d with
    | some k, some v => (memberValues? depth rest).map ((k, v) :: ·)
    | _, _ => none

end

end Document

/-- Containers that are kept may be nested this deep. -/
def maxDepth : Nat := 127

def parse? (bytes : List UInt8) : Option Json :=
  (Document.parse? bytes).bind (Document.value? maxDepth)

end TaskDesk.Json
