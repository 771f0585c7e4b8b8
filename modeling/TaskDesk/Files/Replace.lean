import TaskDesk.Files.Disk

/-!
# Replacing files in one step

A file is replaced by writing a new one beside it and renaming that over the old one. Whoever
reads the file sees all of the old content or all of the new one. Each step may fail; the new
file that was begun is then removed. The names of new files are drawn by chance.

## Main definitions

* `StoreError`: why a file could not be replaced or read.
* `DiskStep`: the steps that may fail.
* `TempMark`, `DiskChance`: the names that new files get, and which steps fail.
* `DiskAction`: actions on a disk that remember every state that it passed through.
* `Disk.ensureFolder`, `Disk.replaceFile`.
-/

namespace TaskDesk

/-- Why a file could not be replaced or read. -/
inductive StoreError where
  /-- Something that should be a folder is none. -/
  | notFolder (path : String)
  /-- A folder could not be made or written to. -/
  | folder
  /-- The file system refused. -/
  | io
  /-- The content of a file is not of the expected form. -/
  | parse (path : String)
deriving DecidableEq, Repr, Inhabited

namespace StoreError

def text : StoreError → String
  | notFolder path => "directory missing or not writable: " ++ path ++ " is not a directory"
  | folder => "directory missing or not writable"
  | io => "io error"
  | parse path => "could not parse " ++ path

end StoreError

/-- The steps that may fail although the path allows them. -/
inductive DiskStep where
  | makeFolder (place : Place)
  | probe
  | create
  | write
  | flush
  | sync
  | rename
deriving DecidableEq, Repr

/-- What tells a new file from the others in its folder: six letters or digits. -/
structure TempMark where
  chars : List Char
  length_eq : chars.length = 6
  isAlphanum : chars.all Char.isAlphanum

namespace TempMark

/-- The name of the new file. -/
def name (m : TempMark) : String :=
  ".tmp" ++ String.ofList m.chars

/-- The last six decimal digits of a number. -/
def ofNat (n : Nat) : TempMark where
  chars := [100000, 10000, 1000, 100, 10, 1].map fun unit => (n / unit % 10).digitChar
  length_eq := rfl
  isAlphanum := by
    have hdigit : ∀ k < 10, k.digitChar.isAlphanum = true := by decide
    simp [hdigit, Nat.mod_lt]

end TempMark

/-- What is left to chance when a file is replaced. -/
structure DiskChance where
  /-- The steps that fail although the path allows them. -/
  fails : DiskStep → Bool
  /-- The mark that is drawn for the new file of a step, for a disk and the folder that the file
  is for. Marks are drawn until the name is free, so if the last one is taken, all of them were,
  and the file cannot be made. -/
  mark : DiskStep → Disk → Place → TempMark

/-- A disk with the states that it passed through, the latest first. -/
structure DiskTrail where
  disk : Disk
  passed : List Disk := []
deriving Repr

/-- An action on a disk; what it changed stays changed when it fails. -/
abbrev DiskAction := ExceptT StoreError (StateM DiskTrail)

namespace DiskAction

def look : DiskAction Disk :=
  return (← get).disk

/-- Goes on to another state of the disk. -/
def pass (disk : Disk) : DiskAction Unit :=
  modify fun t => ⟨disk, t.disk :: t.passed⟩

def guard (fails : DiskStep → Bool) (step : DiskStep) (e : StoreError) : DiskAction Unit :=
  if fails step then throw e else pure ()

def on {α : Type} (action : DiskAction α) (disk : Disk) : Except StoreError α × DiskTrail :=
  StateT.run (ExceptT.run action) ⟨disk, []⟩

end DiskAction

namespace Disk

open DiskAction

/-- Makes one folder. Says whether it could not be made only because the folder above it is
missing. -/
def makeFolder (fails : DiskStep → Bool) (path : String) : DiskAction (Except Bool Unit) := do
  match (← look).resolve path with
  | .free place _ =>
    if fails (.makeFolder place) then return .error false
    pass ((← look).put place .folder)
    return .ok ()
  | .missing => return .error true
  | _ => return .error false

/-- Makes a folder and those above it that are missing; `depth` bounds how many these are. -/
def makeFolders (fails : DiskStep → Bool) : (depth : Nat) → (path : String) → DiskAction Unit
  | 0, _ => throw .folder
  | depth + 1, path => do
    if path = "" then return
    match ← makeFolder fails path with
    | .ok () => return
    -- It may be there already.
    | .error false => unless (← look).hasFolder path do throw .folder
    -- First the folder above it, then this one again.
    | .error true =>
      match Path.parent? path with
      | none => throw .folder
      | some above =>
        makeFolders fails depth above
        match ← makeFolder fails path with
        | .ok () => return
        | .error _ => unless (← look).hasFolder path do throw .folder

/-- The path from the root of something in a folder. -/
def pathWithin (d : Disk) (folder name : String) : String :=
  let above := if Path.isAbsolute folder then "" else "/" ++ "/".intercalate d.home ++ "/"
  above ++ folder ++ "/" ++ name

/-- A free place for a new file in a folder; in the working folder if the path is empty. The path
of the new file must not be too long. -/
def freePlace? (d : Disk) (mark : Disk → Place → TempMark) (folder : String) : Option Place :=
  match d.resolve (if folder = "" then "." else folder) with
  | .found place .folder =>
    let name := (mark d place).name
    if Path.isTooLong (d.pathWithin folder name) then none
    else if (d.entry? (place ++ [name])).isSome then none
    else some (place ++ [name])
  | _ => none

/-- Tries whether files can be made in a folder. -/
def probe (chance : DiskChance) (folder : String) : DiskAction Unit := do
  match (← look).freePlace? (chance.mark .probe) folder with
  | none => throw .folder
  | some place =>
    guard chance.fails .probe .folder
    pass ((← look).put place (.file []))
    pass ((← look).remove place)

/-- Makes a folder if it is missing and tries whether it can be written to. -/
def ensureFolder (chance : DiskChance) (folder : String) : DiskAction Unit := do
  if (← look).isThere folder then
    unless (← look).hasFolder folder do throw (.notFolder folder)
  else makeFolders chance.fails ((Path.segments folder).length + 1) folder
  probe chance folder

/-- Writes the new file at a place and renames it over the target. -/
def fillAndRename (fails : DiskStep → Bool) (place : Place) (target : String)
    (content : List UInt8) : DiskAction Unit := do
  guard fails .write .io
  pass ((← look).put place (.file content))
  guard fails .flush .io
  guard fails .sync .io
  guard fails .rename .io
  -- Up to here nothing has happened to the target.
  match (← look).rename? place target with
  | some disk => pass disk
  | none => throw .io

/-- Replaces a file, or makes it, with its folder if that is missing. -/
def replaceFile (chance : DiskChance) (target : String) (content : List UInt8) :
    DiskAction Unit := do
  let folder := Path.folder target
  ensureFolder chance folder
  match (← look).freePlace? (chance.mark .create) folder with
  | none => throw .io
  | some place =>
    guard chance.fails .create .io
    pass ((← look).put place (.file []))
    try fillAndRename chance.fails place target content
    catch e =>
      -- The new file does not stay behind.
      pass ((← look).remove place)
      throw e

/-- A mark whose name is free in a folder. More marks are tried than names can be taken there, up to a
million. -/
def freeMark (d : Disk) (folder : Place) : TempMark :=
  let isFree (k : Nat) := (d.entry? (folder ++ [(TempMark.ofNat k).name])).isNone
  .ofNat (((List.range (d.entries.length + 2)).find? isFree).getD 0)

/-- No step fails that the path allows. -/
def noFault : DiskChance where
  fails _ := false
  mark _ d folder := d.freeMark folder

/-- The disk after an action, and how the action ended. -/
def after {α : Type} (d : Disk) (action : DiskAction α) : Except StoreError α × Disk :=
  let (outcome, trail) := action.on d
  (outcome, trail.disk)

end Disk

end TaskDesk
