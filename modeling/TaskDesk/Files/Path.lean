/-!
# Paths

A path is names with slashes between them. An empty name and a single dot stay where they are,
two dots go up.

## Main definitions

* `Path.segments`, `Path.isAbsolute`, `Path.isTooLong`.
* `Path.parent?`: the path of the folder that something is in, as far as the text says.
-/

namespace TaskDesk.Path

/-- The names between the slashes of a path. -/
def segments (path : String) : List String :=
  (path.toList.splitOn '/').map String.ofList

def isAbsolute (path : String) : Bool :=
  path.toList.head? = some '/'

/-- How many bytes a path may have. -/
def longest : Nat := 4095

/-- A path that the file system does not follow. -/
def isTooLong (path : String) : Bool :=
  longest < path.utf8ByteSize

/-- The name goes nowhere. -/
def staysPut (name : String) : Bool :=
  name = "" || name = "."

/-- Drops names at the end that go nowhere. -/
def trimSegments (names : List String) : List String :=
  (names.reverse.dropWhile staysPut).reverse

/-- The path without its last name. The empty path and the root are in no folder; a single name
is in the folder of the empty path. -/
def parent? (path : String) : Option String :=
  match segments path with
  | [] => none
  | first :: rest =>
    match trimSegments rest with
    | [] => if first = "" then none else some ""
    | names =>
      match first, trimSegments names.dropLast with
      | "", [] => some "/"
      | first, above => some ("/".intercalate (first :: above))

/-- The folder that something is in; the working folder if the path names none. -/
def folder (path : String) : String :=
  match parent? path with
  | none => "."
  | some "" => "."
  | some above => above

end TaskDesk.Path
