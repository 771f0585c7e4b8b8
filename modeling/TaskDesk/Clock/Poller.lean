/-!
# Pollers

A poller repeats a fetch at an interval. It has at most one run that goes on; starting again
stops the run before. Ticks of a run never overlap: the next one is planned when the one before
has ended. A tick that begins late by more than the tolerance moves the ones after it. A tick in
flight when its run is stopped still ends in its own time. A run without an interval never ticks,
and whoever waits for its end waits for ever, also once it is stopped.

## Main definitions

* `PollControl`: what a tick decided.
* `PollRun`, `Poller`.
* `Poller.start`, `Poller.stop`, `Poller.beginTick?`, `Poller.endTick`.
* `Poller.isActive`.
-/

namespace TaskDesk

/-- What a tick decided about its run. -/
inductive PollControl where
  | goOn
  | stop
  /-- The tick failed; that stops nothing. -/
  | failed
deriving DecidableEq, Repr, Inhabited

/-- One run of a poller. -/
structure PollRun where
  interval : Nat
  /-- When the next tick is due. -/
  due : Nat
  /-- A tick is in flight. -/
  ticking : Bool := false
  /-- No further tick may begin. -/
  stopped : Bool := false
  /-- Stopped, and no tick is in flight. Without an interval that is never so. -/
  ended : Bool := false
deriving DecidableEq, Repr, Inhabited

namespace PollRun

/-- Lateness up to this many milliseconds does not move later ticks. -/
def tolerance : Nat := 5

def beginTick (r : PollRun) (now : Nat) : PollRun :=
  { r with
    ticking := true
    -- After a late tick the interval counts from now, so that no tick is made up for.
    due := if now > r.due + tolerance then now + r.interval else r.due + r.interval }

/-- Stops the run; it ends when no tick is in flight, if it has an interval. -/
def stop (r : PollRun) : PollRun :=
  { r with stopped := true, ended := !r.ticking && r.interval != 0 }

def endTick (r : PollRun) (control : PollControl) : PollRun :=
  let r := { r with ticking := false }
  if r.stopped ∨ control = .stop then r.stop else r

end PollRun

/-- The runs of a poller, the latest one first. -/
structure Poller where
  runs : List PollRun := []
deriving DecidableEq, Repr, Inhabited

namespace Poller

def current? (p : Poller) : Option PollRun :=
  p.runs.head?

/-- The number of the latest run, counted from one. -/
def currentNumber (p : Poller) : Nat :=
  p.runs.length

/-- A run by its number. -/
def run? (p : Poller) (number : Nat) : Option PollRun :=
  if number = 0 then none else p.runs[p.runs.length - number]?

def modify (p : Poller) (number : Nat) (f : PollRun → PollRun) : Poller :=
  if number = 0 then p else ⟨p.runs.modify (p.runs.length - number) f⟩

def stop (p : Poller) : Poller :=
  match p.runs with
  | [] => p
  | r :: rest => ⟨(if r.stopped then r else r.stop) :: rest⟩

/-- Starts a run, the first tick one interval from now. Intervals are whole milliseconds, however
many; this leaves out finer ones, and those that end beyond the range of the clock. -/
def start (p : Poller) (now interval : Nat) : Poller :=
  -- No two runs go on at a time.
  ⟨{ interval, due := now + interval } :: p.stop.runs⟩

def isActive (p : Poller) : Bool :=
  p.current?.any fun r => !r.stopped && !r.ended

/-- A run has ended, or there never was one of that number. -/
def hasEnded (p : Poller) (number : Nat) : Bool :=
  (p.run? number).all PollRun.ended

/-- Begins the tick of a run that is due, unless the run was stopped. -/
def beginTick? (p : Poller) (number now : Nat) : Option Poller :=
  match p.run? number with
  | none => none
  | some r =>
    if r.stopped ∨ r.ticking then none
    else some (p.modify number (·.beginTick now))

/-- Ends the tick in flight of a run. -/
def endTick (p : Poller) (number : Nat) (control : PollControl) : Poller :=
  p.modify number (·.endTick control)

/-- When the next tick of a run is due, if it goes on and has an interval. -/
def nextDue? (p : Poller) (number : Nat) : Option Nat :=
  match p.run? number with
  | none => none
  | some r => if r.stopped ∨ r.interval = 0 then none else some r.due

end Poller

end TaskDesk
