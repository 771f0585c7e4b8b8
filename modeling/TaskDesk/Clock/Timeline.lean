import TaskDesk.Clock.Agenda
import TaskDesk.Clock.Poller

/-!
# A poller against the clock

A poller whose ticks take a known time and decide what they are told to. The timeline takes the
next thing that is due again and again and writes down when ticks begin and end.

## Main definitions

* `TickPlan`: how long a tick takes and what it decides.
* `Timeline`, `Timeline.start`, `Timeline.stop`, `Timeline.step?`.
* `Timeline.sleep`, `Timeline.finish`: lets time pass.
-/

namespace TaskDesk

/-- What a tick does. -/
structure TickPlan where
  control : PollControl := .goOn
  takes : Nat := 0
deriving DecidableEq, Repr, Inhabited

/-- A tick began or ended. -/
structure TickMark where
  time : Nat
  run : Nat
  tick : Nat
  ended : Bool
deriving DecidableEq, Repr

/-- What the clock can bring to a poller. -/
inductive TimelineJob where
  /-- A run starts to wait for its first tick. -/
  | wait (run : Nat)
  | begin (run : Nat)
  | finish (run tick : Nat) (control : PollControl)
deriving Repr

/-- The ticks that a run has still to make, and how many it made. -/
structure RunPlan where
  made : Nat := 0
  plans : List TickPlan

/-- A poller, the clock and what was written down. -/
structure Timeline where
  now : Nat := 0
  poller : Poller := {}
  /-- The plans of the runs, the latest first. -/
  plans : List RunPlan := []
  agenda : List (Agenda.Entry TimelineJob) := []
  marks : List TickMark := []

namespace Timeline

def start (t : Timeline) (interval : Nat) (plans : List TickPlan) : Timeline :=
  let poller := t.poller.start t.now interval
  { t with
    poller
    plans := { plans } :: t.plans
    agenda := t.agenda ++ [{ due := t.now, job := .wait poller.currentNumber }] }

def stop (t : Timeline) : Timeline :=
  { t with poller := t.poller.stop }

/-- Puts a job down for later; what is due at once goes before everything else. -/
def plan (t : Timeline) (due : Nat) (job : TimelineJob) : Timeline :=
  let entry : Agenda.Entry TimelineJob :=
    { due := max t.now due, urgent := due ≤ t.now, job }
  { t with agenda := t.agenda ++ [entry] }

/-- Plans the next tick of a run, if it goes on; the tick may be due already. -/
def planTick (t : Timeline) (run : Nat) : Timeline :=
  match t.poller.nextDue? run with
  | some due => t.plan due (.begin run)
  | none => t

/-- Begins a tick of a run. -/
def beginTick (t : Timeline) (run : Nat) : Timeline :=
  match t.poller.beginTick? run t.now with
  | none => t
  | some poller =>
    let position := t.plans.length - run
    let plan := t.plans[position]?.getD { plans := [] }
    -- A tick that is not planned takes no time and stops nothing.
    let next := plan.plans.head?.getD {}
    let tick := plan.made + 1
    let t : Timeline :=
      { t with
        poller
        plans := t.plans.set position { made := tick, plans := plan.plans.tail }
        marks := t.marks ++ [⟨t.now, run, tick, false⟩] }
    t.plan (t.now + next.takes) (.finish run tick next.control)

/-- Ends a tick of a run and plans the next one. -/
def endTick (t : Timeline) (run tick : Nat) (control : PollControl) : Timeline :=
  let poller := t.poller.endTick run control
  let t : Timeline := { t with poller, marks := t.marks ++ [⟨t.now, run, tick, true⟩] }
  t.planTick run

def perform (t : Timeline) : TimelineJob → Timeline
  | .wait run => t.planTick run
  | .begin run => t.beginTick run
  | .finish run tick control => t.endTick run tick control

/-- Takes the next job that is due by a time. -/
def step? (limit : Option Nat) (t : Timeline) : Option Timeline :=
  match Agenda.dueBy? limit t.agenda with
  | none => none
  | some (e, agenda) =>
    some ({ t with now := max t.now e.due, agenda }.perform e.job)

/-- Takes jobs that are due by a time until the goal is reached; `fuel` bounds their number. -/
def run (goal : Timeline → Bool) (limit : Option Nat) : (fuel : Nat) → Timeline → Timeline
  | 0, t => t
  | fuel + 1, t =>
    if goal t then t
    else
      match t.step? limit with
      | none => t
      | some next => run goal limit fuel next

/-- More jobs than the life of a poller takes. -/
def fuel : Nat := 10000000

/-- Everything that is due now. -/
def settle (t : Timeline) : Timeline :=
  t.run (fun _ => false) (some t.now) fuel

def sleep (t : Timeline) (ms : Nat) : Timeline :=
  let wake := t.now + ms
  { t.run (fun _ => false) (some wake) fuel with now := wake }

/-- Waits until the latest run has ended. -/
def finish (t : Timeline) : Timeline :=
  let number := t.poller.currentNumber
  (t.run (fun t => t.poller.hasEnded number) none fuel).settle

end Timeline

end TaskDesk
