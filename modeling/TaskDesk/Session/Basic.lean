import TaskDesk.Api.Flight
import TaskDesk.Clock.Agenda
import TaskDesk.Clock.Poller
import TaskDesk.Session.Source

/-!
# List sessions

A session is one open list: its state, the effects it has to carry out and the poller that keeps
it fresh. Several activities share it: dispatches of the operator and runs of the poller. Each
one goes on by itself up to its next wait; only then another one may go on. What is due at one
time goes on in the order in which the waits began, but what the operator waits for comes first;
a new run of the poller comes after everything that is due when it is started.

## Main definitions

* `Work`: messages and effects that one activity has still to deal with.
* `Activity`: where an activity goes on.
* `Session`, `Session.step`: one step of the activity that is going on.
* `Session.next?`: the next activity when the one before waits.

## Design notes

A step is a function without recursion, and an activity in a wait is data on the agenda. So what
holds at every point where an activity waits can be said, and it does not depend on the order in
which the clock lets them go on.
-/

namespace TaskDesk

/-- On whose behalf messages are dealt with. -/
inductive Origin where
  /-- A dispatch of the operator; the operator may be waiting for its end. -/
  | operator (awaited : Bool)
  /-- A tick of a run. -/
  | tick (run : Nat)
  /-- A tick of a run that learned of a rejected credential. -/
  | lastTick (run : Nat)
deriving DecidableEq, Repr, Inhabited

/-- What an activity has still to deal with: effects first, then messages. -/
structure Work where
  effects : List Effect := []
  queue : List Message := []
  origin : Origin

/-- What the outcome of a call is for. -/
inductive Purpose where
  /-- An effect; its message joins the rest of the work. -/
  | effect (effect : Effect) (rest : Work)
  /-- The fetch of a tick. -/
  | poll (query : ListQuery) (run : Nat)

namespace Purpose

def origin : Purpose → Origin
  | effect _ rest => rest.origin
  | poll _ run => .tick run

end Purpose

/-- Where an activity goes on. -/
inductive Activity where
  | work (work : Work)
  | call (next : FlightNext Purpose)
  /-- A run starts to wait for its first tick. -/
  | wait (run : Nat)
  /-- A tick of a run is due. -/
  | tick (run : Nat)

/-- An open list. -/
structure Session (κ : Type) where
  config : ViewConfig
  policy : RetryPolicy := {}
  world : World κ
  state : ListState := config.initialState
  poller : Poller := {}
  /-- The activity that is going on. -/
  running : Option Activity := none
  /-- The activities in a wait. -/
  agenda : List (Agenda.Entry Activity) := []
  /-- The dispatch that the operator waits for has not ended. -/
  awaiting : Bool := false
  /-- Dispatches that have not ended; each of them holds the session. -/
  dispatches : Nat := 0
  /-- Ticks that have not ended; each of them keeps the poller. -/
  ticks : Nat := 0
  /-- The operator let go of the session. -/
  released : Bool := false

namespace Session

variable {κ : Type}

/-- A session that nothing has happened to. -/
def opened (config : ViewConfig) (policy : RetryPolicy) (world : World κ) : Session κ :=
  { config, policy, world }

/-- Lets the state machine take a message; a changed view is announced. -/
def apply (s : Session κ) (m : Message) : Session κ × List Effect :=
  let (state, effects) := s.state.update m
  let (dirty, state) := state.consumeDirty
  let world := if dirty then s.world.emit (.listRefreshed state.view) else s.world
  ({ s with state, world }, effects)

/-- Goes on with something after a wait; without a wait at once. -/
def goOn (s : Session κ) (delay : Nat) (urgent : Bool) (a : Activity) : Session κ :=
  if delay = 0 then { s with running := some a }
  else
    { s with
      running := none
      agenda := s.agenda ++ [{ due := s.world.now + delay, urgent, job := a }] }

/-- A call goes on, or its outcome is used. -/
def continueCall (s : Session κ) (next : FlightNext Purpose) : Session κ :=
  { s with running := some (.call next) }

def startPolling (s : Session κ) : Session κ :=
  let poller := s.poller.start s.world.now s.config.interval
  { s with
    poller
    agenda := s.agenda ++ [{ due := s.world.now, job := .wait poller.currentNumber }] }

def stopPolling (s : Session κ) : Session κ :=
  { s with poller := s.poller.stop }

/-- Nobody holds the session any more. -/
def isLetGo (s : Session κ) : Bool :=
  s.released && s.dispatches == 0

/-- When nobody holds the session any more, polling stops. -/
def settleRelease (s : Session κ) : Session κ :=
  -- A tick that has not ended can still start it again.
  if s.isLetGo then s.stopPolling else s

/-- After the last tick of a session that nobody holds, polling stops for good. -/
def settleTicks (s : Session κ) : Session κ :=
  if s.isLetGo && s.ticks == 0 then s.stopPolling else s

/-- Waits for the next tick of a run, if it goes on. -/
def awaitTick (s : Session κ) (run : Nat) : Session κ :=
  match s.poller.nextDue? run with
  -- The tick may be due already; then it begins at once.
  | some due => s.goOn (due - s.world.now) false (.tick run)
  | none => { s with running := none }

/-- Ends a tick; the run waits for the next one. -/
def endTick (s : Session κ) (run : Nat) (control : PollControl) : Session κ :=
  let poller := s.poller.endTick run control
  let s : Session κ := { s with poller, running := none, ticks := s.ticks - 1 }
  s.settleTicks.awaitTick run

/-- Ends an activity that has nothing left to deal with. -/
def endWork (s : Session κ) : Origin → Session κ
  | .operator awaited =>
    { s with
      running := none
      awaiting := s.awaiting && !awaited
      dispatches := s.dispatches - 1 }.settleRelease
  -- By now the view has decided whether it still wants to be polled.
  | .tick run => s.endTick run (if s.state.polling then .goOn else .stop)
  | .lastTick run => s.endTick run .stop

variable [Vault κ]

def perform (s : Session κ) (e : Effect) (rest : Work) : Session κ :=
  match e.call? s.config.source with
  | some call => s.continueCall (s.world.launch s.policy call (.effect e rest))
  | none =>
    -- What is no call is done at once.
    let s :=
      match e with
      | .startPolling => s.startPolling
      | .stopPolling => s.stopPolling
      | .notify level text => { s with world := s.world.emit (.notice level text) }
      | _ => s
    { s with running := some (.work rest) }

/-- Goes on with work: the next effect, else the next message, else the end. -/
def proceed (s : Session κ) (w : Work) : Session κ :=
  match w.effects, w.queue with
  | e :: effects, _ => s.perform e { w with effects }
  | [], m :: queue =>
    let (s, effects) := s.apply m
    { s with running := some (.work { w with effects, queue }) }
  | [], [] => s.endWork w.origin

def land (s : Session κ) (outcome : Except ApiError ApiResponse) : Purpose → Session κ
  | .effect e rest =>
    let m := e.reply s.config.source outcome
    { s with running := some (.work { rest with queue := rest.queue ++ [m] }) }
  | .poll query run =>
    match outcome.bind (s.config.source.snapshot query) with
    | .ok snapshot =>
      let work : Work := { queue := [.pageLoaded query snapshot], origin := .tick run }
      { s with running := some (.work work) }
    | .error e =>
      -- Of a tick that failed the view only hears that the credential was rejected.
      let work : Work := { queue := [.authInvalid], origin := .lastTick run }
      if e.isAuthInvalid then { s with running := some (.work work) }
      else s.endTick run .failed

def proceedCall (s : Session κ) : FlightNext Purpose → Session κ
  | .landed purpose outcome => s.land outcome purpose
  | .go delay step =>
    if delay = 0 then
      let (next, world) := step.run s.world
      { s with world, running := some (.call next) }
    else
      -- A call that the operator waits for goes before others that are due at the same time.
      let urgent := step.flight.purpose.origin = .operator true
      s.goOn delay urgent (.call (.go 0 step))

/-- Begins a tick of a run, unless the run was stopped. -/
def beginTick (s : Session κ) (run : Nat) : Session κ :=
  match s.poller.beginTick? run s.world.now with
  | none => { s with running := none }
  | some poller =>
    let s := { s with poller, ticks := s.ticks + 1 }
    let query := s.state.query
    s.continueCall
      (s.world.launch s.policy (s.config.source.fetchCall query) (.poll query run))

def step (s : Session κ) : Activity → Session κ
  | .work w => s.proceed w
  | .call next => s.proceedCall next
  | .wait run => s.awaitTick run
  | .tick run => s.beginTick run

/-- Lets the clock go on to an entry of the agenda and takes it up. -/
def takeUp (s : Session κ) (e : Agenda.Entry Activity) (agenda : List (Agenda.Entry Activity)) :
    Session κ :=
  { s with
    world := { s.world with now := max s.world.now e.due }
    agenda
    running := some e.job }

/-- The next step: of the activity that is going on, else of the one that is due first. -/
def next? (limit : Option Nat) (s : Session κ) : Option (Session κ) :=
  match s.running with
  | some a => some ({ s with running := none }.step a)
  | none =>
    match Agenda.dueBy? limit s.agenda with
    | some (e, agenda) => some (s.takeUp e agenda)
    | none => none

end Session

end TaskDesk
