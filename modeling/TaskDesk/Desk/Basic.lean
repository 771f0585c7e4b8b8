import TaskDesk.Api.Retry
import TaskDesk.Api.Transport
import TaskDesk.CommandLine.Command
import TaskDesk.Desk.Failure
import TaskDesk.Files.Secrets
import TaskDesk.Screen.Printer

/-!
# The desk

A desk is what a command works with: the settings, the backend with the stored credentials, the
output written so far and the time at which the operator interrupts.

## Main definitions

* `Desk`, `Desk.opened`: a desk with the credentials of the settings.
* `Settings.ofInvocation`: the settings that an invocation works with.
* `DeskAction`: a part of a command; its output stays when it fails.
* `DeskAction.say`, `DeskAction.call`, `DeskAction.within`.

## Design notes

Events are printed when they come, texts of the command when they are written. Both end up in one
output, so events that are not printed yet are printed before every text.
-/

namespace TaskDesk

/-- What a command works with. -/
structure Desk where
  settings : Settings
  world : World DiskVault
  /-- Lists are printed whenever they change. -/
  printer : ScreenPrinter := { showLists := false }
  /-- When the operator interrupts. -/
  interrupt : Option Nat := none
  output : String := ""

/-- The settings of the file, then the environment, then the command line; and the secrets of
the environment. -/
def Settings.ofInvocation (d : Disk) (environment : String → Option String) (i : Invocation) :
    Except CommandFailure (Settings × Slots) :=
  match Settings.load d i.config with
  | .error e => .error (.within "loading configuration" (.settings e))
  | .ok s =>
    let (s, overrides) := s.withEnvironment environment
    .ok ({ s with baseUrl := i.baseUrl.getD s.baseUrl }, overrides)

namespace Desk

/-- A desk with the credentials of the settings. -/
def opened (settings : Settings) (overrides : Slots) (disk : Disk) :
    Except CommandFailure Desk :=
  match SecretFile.openAt disk settings.credentialsPath with
  | .error e => .error (.within ("opening " ++ settings.credentialsPath) (.store e))
  | .ok file => .ok { settings, world := { vault := ⟨{ file with overrides }, disk⟩ } }

/-- The base URL of the settings can be used. -/
def checkBackend (s : Settings) : Except CommandFailure Unit :=
  match Transport.ofSettings s.transport with
  | .ok _ => .ok ()
  | .error e => .error (.within ("backend URL " ++ s.baseUrl) (.api e))

/-- Prints the events that are not printed yet. -/
def caughtUp (d : Desk) : Desk :=
  let (text, printer) := d.printer.printAll d.world.events
  { d with
    printer
    output := d.output ++ text
    world := { d.world with events := [] } }

/-- The interruption that is still to come. -/
def comingInterrupt (d : Desk) : Option Nat :=
  -- Only a command that waits hears the operator: what came before the wait is lost.
  d.interrupt.filter (d.world.now ≤ ·)

def atInterrupt (d : Desk) : Desk :=
  { d with world := { d.world with now := max d.world.now (d.interrupt.getD 0) } }

end Desk

/-- A part of a command; its output stays when it fails. -/
abbrev DeskAction := ExceptT CommandFailure (StateM Desk)

namespace DeskAction

def say (text : String) : DeskAction Unit :=
  modify fun d => { d.caughtUp with output := d.caughtUp.output ++ text }

def sayLine (text : String) : DeskAction Unit :=
  say (text ++ "\n")

/-- Takes an outcome for what it is. -/
def ofExcept {α ε : Type} (asFailure : ε → CommandFailure) : Except ε α → DeskAction α
  | .ok a => pure a
  | .error e => throw (asFailure e)

def call (c : ApiCall) : DeskAction c.Answer := do
  let d ← get
  let (outcome, world) := d.world.call d.settings.policy c
  set { d with world }
  ofExcept .api outcome

/-- Makes a call that changes something and says what the backend says about it. -/
def callAndSay (c : ApiCall) (acknowledgement : c.Answer → Acknowledgement) (fallback : String) :
    DeskAction Unit := do
  sayLine ((acknowledgement (← call c)).textOr fallback)

/-- Says what was being done when an action fails. -/
def within {α : Type} (context : String) (action : DeskAction α) : DeskAction α :=
  tryCatch action fun cause => throw (.within context cause)

def changeVault (change : DiskVault → Except StoreError Unit × DiskVault) : DeskAction Unit := do
  let d ← get
  let (outcome, vault) := change d.world.vault
  set { d with world := { d.world with vault } }
  ofExcept .store outcome

def disk : DeskAction Disk :=
  return (← get).world.vault.disk

def onDisk (action : DiskAction Unit) : DeskAction Unit :=
  changeVault fun v =>
    let (outcome, disk) := v.disk.after action
    (outcome, { v with disk })

/-- Runs an action at a desk; the events that are left are printed. -/
def on {α : Type} (action : DeskAction α) (d : Desk) : Except CommandFailure α × Desk :=
  let (outcome, d) := StateT.run (ExceptT.run action) d
  (outcome, d.caughtUp)

end DeskAction

end TaskDesk
