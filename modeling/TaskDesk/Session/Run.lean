import TaskDesk.Session.Basic

/-!
# Running a session against the clock

## Main definitions

* `Session.run`: takes steps until a goal is reached or nothing is due.
* `Session.dispatch`, `Session.dispatch?`, `Session.spawn`, `Session.sleep`, `Session.finish`,
  `Session.dispose`, `Session.release`: what an operator can do.
-/

namespace TaskDesk.Session

variable {κ : Type} [Vault κ]

/-- Takes steps until a point between two activities where the goal is reached, or until nothing
is due by the limit; `fuel` bounds the number of steps. -/
def run (goal : Session κ → Bool) (limit : Option Nat) : (fuel : Nat) → Session κ → Session κ
  | 0, s => s
  | fuel + 1, s =>
    if s.running.isNone && goal s then s
    else
      match s.next? limit with
      | none => s
      | some next => run goal limit fuel next

/-- More steps than the life of a session takes. -/
def fuel : Nat := 10000000

/-- Everything that is due now. -/
def settle (s : Session κ) : Session κ :=
  s.run (fun _ => false) (some s.world.now) fuel

/-- Waits for a dispatch, up to a time. -/
def awaitDispatch (s : Session κ) (limit : Option Nat) : Session κ :=
  s.run (fun s => !s.awaiting) limit fuel

/-- Begins a dispatch that the operator waits for. -/
def beginDispatch (s : Session κ) (m : Message) : Session κ :=
  { s with
    running := some (.work { queue := [m], origin := .operator true })
    awaiting := true
    dispatches := s.dispatches + 1 }

/-- Dispatches a message and waits until everything about it is done. -/
def dispatch (s : Session κ) (m : Message) : Session κ :=
  ((s.beginDispatch m).awaitDispatch none).settle

/-- A dispatch, unless the program stops because the message makes a sum overflow. -/
def dispatch? (s : Session κ) (m : Message) : Option (Session κ) :=
  (s.state.update? m).map fun _ => s.dispatch m

/-- Dispatches a message without waiting. -/
def spawn (s : Session κ) (m : Message) : Session κ :=
  let work : Work := { queue := [m], origin := .operator false }
  let s : Session κ :=
    { s with
      dispatches := s.dispatches + 1
      agenda := s.agenda ++ [{ due := s.world.now, job := .work work }] }
  s.settle

def sleep (s : Session κ) (ms : Nat) : Session κ :=
  let wake := s.world.now + ms
  let s := s.run (fun _ => false) (some wake) fuel
  { s with world := { s.world with now := wake } }

/-- Waits until the latest run of the poller has ended, up to a time. -/
def awaitPolling (s : Session κ) (limit : Option Nat) : Session κ :=
  let number := s.poller.currentNumber
  s.run (fun s => s.poller.hasEnded number) limit fuel

/-- Waits until polling has ended. -/
def finish (s : Session κ) : Session κ :=
  (s.awaitPolling none).settle

/-- Closes the view. What is in flight goes on but changes nothing any more. -/
def dispose (s : Session κ) : Session κ :=
  let (s, _) := s.apply .disposed
  s.stopPolling

def release (s : Session κ) : Session κ :=
  { s with released := true }.settleRelease

end TaskDesk.Session
