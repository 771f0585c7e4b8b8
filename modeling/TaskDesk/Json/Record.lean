import TaskDesk.Json.Document

/-!
# Reading records

A record is read from an object, member by member, or from an array with its fields in the
order of declaration. A field may have several names; two members for one field make the record
unreadable, members for no field are passed over. A field that is absent takes its default, if
it has one. Values of a wrong kind never convert, except that a whole number is also a
`binary64` number.

Records are read from values and from documents alike. In a document only what is kept counts:
members that are passed over may repeat, may be nested without a limit, and their literals need
no value.

## Main definitions

* `Json.Source`: what records can be read from.
* `Json.Nested`: a document with the nesting that is still allowed.
* `Json.Fields.of?`, `Json.Fields.slot?`: the fields of a record.
* `Json.Read`: readers of single values.
-/

namespace TaskDesk.Json

/-- One look at a source: its kind and its parts. -/
inductive Look (σ : Type) where
  | null
  | bool (value : Bool)
  | num (value : Option Number)
  | str (text : Option String)
  | arr (items : List σ)
  | obj (members : List (Option String × σ))
  /-- A container beyond the nesting that is allowed. -/
  | tooDeep

/-- What records can be read from. -/
class Source (σ : Type) where
  /-- The kind and the parts. -/
  look : σ → Look σ
  /-- The value, if it is kept as it is. -/
  keep : σ → Option Json

instance : Source Json where
  look
    | .null => .null
    | .bool b => .bool b
    | .num n => .num (some n)
    | .str s => .str (some s)
    | .arr items => .arr items
    | .obj members => .obj (members.map fun (k, v) => (some k, v))
  keep := some

/-- A document inside a text, with the nesting that is still allowed from here on. -/
structure Nested where
  document : Document
  depth : Nat

instance : Source Nested where
  look s :=
    match s.document with
    | .null => .null
    | .bool b => .bool b
    | .num n => .num n
    | .str t => .str t
    | .arr items =>
      match s.depth with
      | 0 => .tooDeep
      | depth + 1 => .arr (items.map fun d => ⟨d, depth⟩)
    | .obj members =>
      match s.depth with
      | 0 => .tooDeep
      | depth + 1 => .obj (members.map fun (k, d) => (k, ⟨d, depth⟩))
  keep s := s.document.value? s.depth

variable {σ : Type} [Source σ] {α : Type}

/-- The fields of a record as they stand. -/
inductive Fields (σ : Type) where
  | named (members : List (String × σ))
  | listed (items : List σ)

namespace Fields

/-- Pairs every member with its key; a key that spells no text makes this fail. -/
def keyed? : List (Option String × σ) → Option (List (String × σ))
  | [] => some []
  | (none, _) :: _ => none
  | (some k, s) :: rest => (keyed? rest).map ((k, s) :: ·)

/-- The fields of a record that has `count` of them. -/
def of? (count : Nat) (s : σ) : Option (Fields σ) :=
  match Source.look s with
  | .obj members => (keyed? members).map .named
  | .arr items => if items.length ≤ count then some (.listed items) else none
  | _ => none

/-- What stands for a field, given its names and its position. The outer option is `none` if
there are two members for it, the inner one if there is none. -/
def slot? (fields : Fields σ) (position : Nat) (names : List String) : Option (Option σ) :=
  match fields with
  | .listed items => some items[position]?
  | .named members =>
    match members.filter fun (k, _) => names.contains k with
    | [] => some none
    | [(_, s)] => some (some s)
    | _ => none

def required? (fields : Fields σ) (position : Nat) (names : List String)
    (read : σ → Option α) : Option α := do
  let some s ← fields.slot? position names | none
  read s

def withDefault? (fields : Fields σ) (position : Nat) (names : List String) (default : α)
    (read : σ → Option α) : Option α := do
  match ← fields.slot? position names with
  | some s => read s
  | none => some default

end Fields

namespace Read

def any (s : σ) : Option Json :=
  Source.keep s

def string (s : σ) : Option String :=
  match Source.look s with
  | .str text => text
  | _ => none

/-- A whole number up to a bound. -/
def natUpTo (bound : Nat) (s : σ) : Option Nat :=
  match Source.look s with
  | .num (some (.int i)) => if 0 ≤ i ∧ i ≤ bound then some i.toNat else none
  | _ => none

/-- An unsigned 64-bit number. -/
def nat64 (s : σ) : Option Nat :=
  natUpTo (Nat.pow 2 64 - 1) s

/-- An unsigned 32-bit number. -/
def nat32 (s : σ) : Option Nat :=
  natUpTo (Nat.pow 2 32 - 1) s

/-- A `binary64` number; whole numbers are rounded to one. -/
def float (s : σ) : Option Binary64 :=
  match Source.look s with
  | .num (some (.int i)) => some (Binary64.ofInt i)
  | .num (some (.float x)) => some x
  | _ => none

/-- `null` for none. -/
def nullable (read : σ → Option α) (s : σ) : Option (Option α) :=
  match Source.look s with
  | .null => some none
  | _ => (read s).map some

def list (read : σ → Option α) (s : σ) : Option (List α) :=
  match Source.look s with
  | .arr items => items.mapM read
  | _ => none

/-- A word out of a fixed set, alone or as the one key of an object whose value is `null`. -/
def tag (ofWord? : String → Option α) (s : σ) : Option α :=
  match Source.look s with
  | .str (some word) => ofWord? word
  | .obj [(some word, value)] =>
    match Source.look value with
    | .null => ofWord? word
    | _ => none
  | _ => none

end Read

def readText? (read : Nested → Option α) (bytes : List UInt8) : Option α := do
  let d ← Document.parse? bytes
  read ⟨d, maxDepth⟩

end TaskDesk.Json
