import TaskDesk.Files.Path

/-!
# Files and folders

A disk is a map from places to files and folders. A path leads to a place by way of folders that
are there; it starts from the working folder unless it begins with a slash.

## Main definitions

* `Place`, `DiskEntry`, `Disk`.
* `Disk.entry?`, `Disk.put`, `Disk.remove`: the map.
* `Disk.resolve`: where a path leads.
* `Disk.read?`, `Disk.truncate`, `Disk.rename?`: what programs do with paths.
-/

namespace TaskDesk

/-- The names from the root on. -/
abbrev Place := List String

/-- What is at a place. -/
inductive DiskEntry where
  | file (bytes : List UInt8)
  | folder
deriving DecidableEq, Repr, Inhabited

/-- A disk. The working folder and everything above it are folders. -/
structure Disk where
  entries : List (Place × DiskEntry) := []
  home : Place := ["home"]
deriving DecidableEq, Repr, Inhabited

namespace Disk

def entry? (d : Disk) (place : Place) : Option DiskEntry :=
  if place.isPrefixOf d.home then some .folder else d.entries.lookup place

def put (d : Disk) (place : Place) (entry : DiskEntry) : Disk :=
  { d with entries := (place, entry) :: d.entries.filter fun (p, _) => p ≠ place }

def remove (d : Disk) (place : Place) : Disk :=
  { d with entries := d.entries.filter fun (p, _) => p ≠ place }

/-- Where a path leads. -/
inductive Target where
  /-- To something that is there. -/
  | found (place : Place) (entry : DiskEntry)
  /-- To a free name in a folder; `slash` says that the path asks for a folder there. -/
  | free (place : Place) (slash : Bool)
  /-- Nowhere, because something on the way is missing. -/
  | missing
  /-- Nowhere, because something on the way is no folder or has a name that cannot be, or because
  the path is too long. -/
  | blocked
deriving DecidableEq, Repr

/-- A name that an entry can have. -/
def isName (name : String) : Bool :=
  name.utf8ByteSize ≤ 255 && !name.toList.contains '\x00'

/-- Follows names from a place that is there. -/
def follow (d : Disk) (place : Place) : List String → Target
  | [] =>
    match d.entry? place with
    | some entry => .found place entry
    | none => .missing
  | name :: rest =>
    match d.entry? place with
    | some .folder =>
      if Path.staysPut name then follow d place rest
      else if name = ".." then follow d place.dropLast rest
      else if !isName name then .blocked
      else
        let next := place ++ [name]
        match d.entry? next with
        | some _ => follow d next rest
        | none => if rest.all (· = "") then .free next (rest ≠ []) else .missing
    | some (.file _) => .blocked
    | none => .missing

theorem follow_nil {d : Disk} {place : Place} {entry : DiskEntry}
    (h : d.entry? place = some entry) : d.follow place [] = .found place entry := by
  simp only [follow, h]

/-- Where a path leads; the empty path leads nowhere. -/
def resolve (d : Disk) (path : String) : Target :=
  if path = "" then .missing
  else if Path.isTooLong path then .blocked
  else if Path.isAbsolute path then d.follow [] (Path.segments path)
  else d.follow d.home (Path.segments path)

/-- Something is there. -/
def isThere (d : Disk) (path : String) : Bool :=
  match d.resolve path with
  | .found _ _ => true
  | _ => false

def hasFolder (d : Disk) (path : String) : Bool :=
  match d.resolve path with
  | .found _ .folder => true
  | _ => false

def read? (d : Disk) (path : String) : Option (List UInt8) :=
  match d.resolve path with
  | .found _ (.file bytes) => some bytes
  | _ => none

/-- Makes an empty file, or empties the one that is there, if the path allows a file. -/
def truncate (d : Disk) (path : String) : Disk :=
  match d.resolve path with
  | .found place (.file _) => d.put place (.file [])
  | .free place false => d.put place (.file [])
  | _ => d

/-- Moves the file at a place to where a path leads: over a file that is there or to a free
name. -/
def rename? (d : Disk) (source : Place) (path : String) : Option Disk :=
  let move (target : Place) : Option Disk :=
    (d.entry? source).map fun entry => (d.remove source).put target entry
  match d.resolve path with
  | .found place (.file _) => move place
  | .free place false => move place
  | _ => none

/-- Everything in the working folder, by the path from there. -/
def listing (d : Disk) : List (String × DiskEntry) :=
  d.entries.filterMap fun (place, entry) =>
    if d.home.isPrefixOf place then
      some ("/".intercalate (place.drop d.home.length), entry)
    else none

/-- Puts a file into the working folder, with the folders above it. -/
def add (d : Disk) (path : String) (bytes : List UInt8) : Disk :=
  let names := Path.segments path
  let depths := (List.range names.length).drop 1
  let d := depths.foldl (fun d depth => d.put (d.home ++ names.take depth) .folder) d
  d.put (d.home ++ names) (.file bytes)

end Disk

end TaskDesk
