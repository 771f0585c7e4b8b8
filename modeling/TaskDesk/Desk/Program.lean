import TaskDesk.Desk.Run

/-!
# The whole program

A run of the program from its command line to its exit code: what is printed, what is complained
about and what is on the disk afterwards.

## Main definitions

* `Surroundings`: what a run finds.
* `Surroundings.program`: what a run does.
-/

namespace TaskDesk

/-- What a run of the program finds. -/
structure Surroundings where
  disk : Disk := {}
  environment : String → Option String := fun _ => none
  /-- What the backend is going to answer. -/
  script : List Reply := []
  /-- When the operator interrupts. -/
  interrupt : Option Nat := none

/-- What a run of the program leaves behind. -/
structure ProgramResult where
  code : Nat := 0
  output : String := ""
  /-- The lines of standard error. -/
  complaints : List String := []
  disk : Disk

namespace CommandFailure

/-- The causes of a failure below its headline. -/
def causeLines : List String → List String
  | [] => []
  | [cause] => ["", "Caused by:", "    " ++ cause]
  | causes =>
    ["", "Caused by:"] ++
      (causes.zipIdx.map fun (cause, i) => "    " ++ toString i ++ ": " ++ cause)

/-- A failure as the program complains about it. -/
def complaint (f : CommandFailure) : List String :=
  match f.chain ApiError.text "the system refused" with
  | [] => []
  | headline :: causes => ("Error: " ++ headline) :: causeLines causes

end CommandFailure

namespace Desk

/-- Runs a command, after a look at the address of the backend. -/
def runChecked (d : Desk) (c : Command) : Except CommandFailure Unit × Desk :=
  match checkBackend d.settings with
  | .error f => (.error f, d)
  | .ok () => d.run c

end Desk

namespace Surroundings

def desk (s : Surroundings) (settings : Settings) (overrides : Slots) :
    Except CommandFailure Desk :=
  (Desk.opened settings overrides s.disk).map fun d =>
    { d with interrupt := s.interrupt, world := { d.world with script := s.script } }

/-- The log file is made or emptied; nothing else is done for want of one. -/
def withLog (s : Surroundings) (l : LogDestination) : Surroundings × List String :=
  let s := { s with disk := l.begin s.disk }
  let missing := l.file?.toList.filter fun path => (s.disk.read? path).isNone
  (s, missing.map fun path => "Warning: Could not create log file at " ++ path)

/-- Runs an invocation with its settings. -/
def programAt (s : Surroundings) (i : Invocation) (settings : Settings) (overrides : Slots) :
    ProgramResult :=
  let (s, warnings) := s.withLog settings.logDestination
  match s.desk settings overrides with
  | .error f => { code := 1, complaints := warnings ++ f.complaint, disk := s.disk }
  | .ok d =>
    let (outcome, d) := d.runChecked i.command
    let left : ProgramResult :=
      { output := d.output, complaints := warnings, disk := d.world.vault.disk }
    match outcome with
    | .ok () => left
    | .error f => { left with code := 1, complaints := warnings ++ f.complaint }

def program (s : Surroundings) (words : List String) : ProgramResult :=
  match Invocation.read words with
  | .error e => { code := e.exitCode, complaints := [e.text], disk := s.disk }
  | .ok i =>
    match Settings.ofInvocation s.disk s.environment i with
    | .error f => { code := 1, complaints := f.complaint, disk := s.disk }
    | .ok (settings, overrides) => s.programAt i settings overrides

end Surroundings

end TaskDesk
