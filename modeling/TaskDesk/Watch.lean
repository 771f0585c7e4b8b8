import TaskDesk.Api.Flight
import TaskDesk.Clock.Agenda
import TaskDesk.Clock.Poller

/-!
# Watching a task

A watch asks for the state of one generation task again and again and tells the front end about
it, until the task has come to its end. Failures are passed over; a rejected token is kept.

## Main definitions

* `Watch`, `Watch.begin`.
* `Watch.step`, `Watch.next?`: one step of the tick that is going on, or the next tick.
* `Watch.sleep`, `Watch.finish`, `Watch.stop`.
* `Watch.leave`, `Watch.ask`: nobody listens any more, and calls beside the watch.

## Design notes

Stopping a watch does not take back the call of a tick that is on its way. It is carried on while
time passes, so it uses up an answer of the backend and may drop a token even when nobody listens
any more.
-/

namespace TaskDesk

/-- What a call is made for. -/
inductive WatchPurpose where
  | tick (run : Nat)
  /-- A call that is made while the call of a tick may still be on its way. -/
  | beside
deriving DecidableEq

/-- Where a watch goes on. -/
inductive WatchActivity where
  | call (next : FlightNext WatchPurpose)
  /-- A run waits for its first tick from now on. -/
  | wait (run : Nat)
  /-- A tick of a run is due. -/
  | tick (run : Nat)

/-- A task under watch. -/
structure Watch (κ : Type) where
  kind : TaskKind
  id : TaskId
  interval : Nat
  policy : RetryPolicy
  world : World κ
  poller : Poller := {}
  /-- The front end is told about the task. -/
  isHeard : Bool := true
  /-- How the call beside the watch ended. -/
  answer : Option (Except ApiError ApiResponse) := none
  /-- What is going on. -/
  running : Option WatchActivity := none
  /-- What waits for the clock. -/
  agenda : List (Agenda.Entry WatchActivity) := []

namespace Watch

variable {κ : Type}

def statusCall (w : Watch κ) : ApiCall :=
  .generationTask w.kind w.id

/-- Goes on with something after a wait; without a wait at once. -/
def goOn (w : Watch κ) (delay : Nat) (urgent : Bool) (a : WatchActivity) : Watch κ :=
  if delay = 0 then { w with running := some a }
  else
    { w with
      running := none
      agenda := w.agenda ++ [{ due := w.world.now + delay, urgent, job := a }] }

/-- Starts a watch; the first tick is one interval from now. -/
def begin (kind : TaskKind) (id : TaskId) (interval : Nat) (policy : RetryPolicy)
    (world : World κ) : Watch κ :=
  let poller := ({} : Poller).start world.now interval
  { kind, id, interval, policy, world, poller
    agenda := [{ due := world.now, job := .wait poller.currentNumber }] }

def stop (w : Watch κ) : Watch κ :=
  { w with poller := w.poller.stop }

/-- Stops a watch that nobody listens to any more. -/
def leave (w : Watch κ) : Watch κ :=
  { w.stop with isHeard := false }

/-- Waits for the next tick of a run, if it goes on. -/
def awaitTick (w : Watch κ) (run : Nat) : Watch κ :=
  match w.poller.nextDue? run with
  -- The tick may be due already; then it begins at once.
  | some due => w.goOn (due - w.world.now) false (.tick run)
  | none => { w with running := none }

/-- Ends a tick; the run waits for the next one. -/
def endTick (w : Watch κ) (run : Nat) (control : PollControl) : Watch κ :=
  { w with poller := w.poller.endTick run control }.awaitTick run

/-- Tells the front end something, if it listens. -/
def tell (w : Watch κ) (e : Event) : Watch κ :=
  if w.isHeard then { w with world := w.world.emit e } else w

/-- Tells the front end about a task; the end of the task is the end of the watch. -/
def report (w : Watch κ) (run : Nat) (outcome : Except ApiError TaskRecord) : Watch κ :=
  match outcome with
  | .ok t =>
    if t.status.isTerminal then (w.tell (.taskFinished t)).endTick run .stop
    else (w.tell (.taskUpdated t)).endTick run .goOn
  | .error _ => w.endTick run .failed

variable [Vault κ]

def land (w : Watch κ) (outcome : Except ApiError ApiResponse) : WatchPurpose → Watch κ
  | .tick run => w.report run (outcome.bind (ApiCall.answer (.generationTask w.kind w.id)))
  | .beside => { w with running := none, answer := some outcome }

def proceedCall (w : Watch κ) : FlightNext WatchPurpose → Watch κ
  | .landed purpose outcome => w.land outcome purpose
  | .go delay step =>
    if delay = 0 then
      let (next, world) := step.run w.world
      { w with world, running := some (.call next) }
    else w.goOn delay (step.flight.purpose = .beside) (.call (.go 0 step))

/-- Begins a tick, unless the watch was stopped. -/
def beginTick (w : Watch κ) (run : Nat) : Watch κ :=
  match w.poller.beginTick? run w.world.now with
  | none => { w with running := none }
  | some poller =>
    { w with poller, running := some (.call (w.world.launch w.policy w.statusCall (.tick run))) }

def step (w : Watch κ) : WatchActivity → Watch κ
  | .call next => w.proceedCall next
  | .wait run => w.awaitTick run
  | .tick run => w.beginTick run

/-- The next step: of the tick that is going on, else of what is due first. -/
def next? (limit : Option Nat) (w : Watch κ) : Option (Watch κ) :=
  match w.running with
  | some a => some ({ w with running := none }.step a)
  | none =>
    match Agenda.dueBy? limit w.agenda with
    | some (e, agenda) =>
      some
        { w with
          world := { w.world with now := max w.world.now e.due }
          agenda
          running := some e.job }
    | none => none

/-- Takes steps until the goal is reached between two of them, or until nothing is due by the
limit; `fuel` bounds the number of steps. -/
def run (goal : Watch κ → Bool) (limit : Option Nat) : (fuel : Nat) → Watch κ → Watch κ
  | 0, w => w
  | fuel + 1, w =>
    if w.running.isNone && goal w then w
    else
      match w.next? limit with
      | none => w
      | some next => run goal limit fuel next

/-- More steps than a watch takes. -/
def fuel : Nat := 10000000

def hasEnded (w : Watch κ) : Bool :=
  w.poller.hasEnded w.poller.currentNumber

/-- Everything that is due now. -/
def settle (w : Watch κ) : Watch κ :=
  w.run (fun _ => false) (some w.world.now) fuel

def sleep (w : Watch κ) (ms : Nat) : Watch κ :=
  let wake := w.world.now + ms
  let w := w.run (fun _ => false) (some wake) fuel
  { w with world := { w.world with now := wake } }

/-- Waits until the watch has ended, up to a time. -/
def await (w : Watch κ) (limit : Option Nat) : Watch κ :=
  w.run hasEnded limit fuel

def finish (w : Watch κ) : Watch κ :=
  (w.await none).settle

/-- Makes a call beside a watch and waits for its outcome. A request with a fault is not sent. -/
def ask (w : Watch κ) (c : ApiCall) : Except ApiError c.Answer × Watch κ :=
  match c.fault? with
  | some fault => (.error ⟨.validation, fault.message⟩, w)
  | none =>
    let w := { w with running := some (.call (w.world.launch w.policy c .beside)), answer := none }
    let w := w.run (·.answer.isSome) none fuel
    ((w.answer.getD Reply.exhausted.content.outcome).bind c.answer, w)

end Watch

end TaskDesk
