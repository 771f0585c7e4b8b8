import TaskDesk.Desk.Program

/-!
# The command line program

Reads the files that a run may touch, runs the program and writes back what it changed. This layer
has no connection to a backend, so every attempt fails at the network.

## Main definitions

* `main`: runs the program on its command line.
-/

namespace TaskDesk.CommandLineProgram

/-- The names of a path from the root on. -/
def place (home : Place) (path : String) : Place :=
  let start := if Path.isAbsolute path then [] else home
  (Path.segments path).foldl
    (fun place name =>
      if Path.staysPut name then place
      else if name = ".." then place.dropLast
      else place ++ [name])
    start

def pathOf (place : Place) : String :=
  "/" ++ "/".intercalate place

/-- Takes a file or a folder, and the folders above it, from the file system onto a disk. -/
def load (d : Disk) (path : String) : IO Disk := do
  let place := place d.home path
  let mut d := d
  for depth in List.range (place.length + 1) do
    let part := place.take depth
    let real := (← IO.currentDir) / pathOf part
    if ← real.isDir then d := d.put part .folder
    else if ← real.pathExists then
      d := d.put part (.file (← IO.FS.readBinFile real).toList)
  return d

/-- The files that an invocation may read or write once its settings are known. -/
def touched (i : Invocation) (s : Settings) : List String :=
  let named : Option String :=
    match i.command with
    | .showTask _ save => save
    | .submitVideo video => video.image
    | .submitImage image => image.save
    | _ => none
  s.credentialsPath :: s.logDestination.file?.toList ++ named.toList

/-- Writes what is on one disk and not on the other one. -/
def save (before after : Disk) : IO Unit := do
  for (place, entry) in after.entries.reverse do
    if before.entry? place ≠ some entry then
      match entry with
      | .folder => IO.FS.createDirAll (pathOf place)
      | .file bytes =>
        let fresh := pathOf place ++ ".new"
        IO.FS.writeBinFile fresh ⟨bytes.toArray⟩
        IO.FS.rename fresh (pathOf place)

/-- The variables of the environment that settings depend on. -/
def environment : IO (String → Option String) := do
  let mut values : List (String × String) := []
  for name in Settings.environmentNames do
    if let some value ← IO.getEnv name then values := (name, value) :: values
  return fun name => values.lookup name

/-- The disk with the files that an invocation may touch. -/
def loadFor (d : Disk) (environment : String → Option String) (i : Invocation) : IO Disk := do
  let d ← load d (i.config.getD Settings.defaultFile)
  match Settings.ofInvocation d environment i with
  | .error _ => return d
  | .ok (settings, _) => (touched i settings).foldlM load d

def run (words : List String) : IO UInt32 := do
  let environment ← environment
  let home := (Path.segments (← IO.currentDir).toString).filter (· ≠ "")
  let disk ← match Invocation.read words with
    | .error _ => pure { home }
    | .ok i => loadFor { home } environment i
  let r := { disk, environment : Surroundings }.program words
  save disk r.disk
  IO.print r.output
  r.complaints.forM fun line => IO.eprintln line
  return UInt32.ofNat r.code

end TaskDesk.CommandLineProgram

def main (words : List String) : IO UInt32 :=
  TaskDesk.CommandLineProgram.run words
