import TaskDesk.Json.Number

/-!
# JSON values

The values that payloads, results and request bodies are made of. An object is a list of
members in the order of their keys, code point by code point, with every key once.

## Main definitions

* `Json`: a value.
* `Json.object`: the object of a list of members; the last one of a key counts.
* `Json.member?`, `Json.str?`: looking into a value.
-/

namespace TaskDesk

/-- A JSON value. -/
inductive Json where
  | null
  | bool (value : Bool)
  | num (value : Json.Number)
  | str (value : String)
  | arr (items : List Json)
  | obj (members : List (String × Json))
deriving Repr, Inhabited

namespace Json

def int (i : Int) : Json := .num (.int i)

def nat (n : Nat) : Json := .num (.int n)

/-- Puts a member in its place among members sorted by key; an older one of the key gives way. -/
def insert (key : String) (value : Json) : List (String × Json) → List (String × Json)
  | [] => [(key, value)]
  | (k, v) :: rest =>
    if k = key then (key, value) :: rest
    else if key < k then (key, value) :: (k, v) :: rest
    else (k, v) :: insert key value rest

/-- The object of a list of members. Of two members of one key the later one counts. -/
def object (members : List (String × Json)) : Json :=
  .obj (members.foldl (fun acc (k, v) => insert k v acc) [])

/-- The member of an object; anything else has none. -/
def member? (v : Json) (key : String) : Option Json :=
  match v with
  | .obj members => members.lookup key
  | _ => none

def str? : Json → Option String
  | .str s => some s
  | _ => none

def items? : Json → Option (List Json)
  | .arr xs => some xs
  | _ => none

def members? : Json → Option (List (String × Json))
  | .obj ms => some ms
  | _ => none

/-- The value is `null`. -/
def isNull : Json → Bool
  | .null => true
  | _ => false

/-- A value, or `null` for none. -/
def ofOption {α : Type} (f : α → Json) : Option α → Json
  | some a => f a
  | none => .null

end Json

end TaskDesk
