import TaskDesk.Desk.Basic
import TaskDesk.Session.Run
import TaskDesk.Stream.Update
import TaskDesk.Watch

/-!
# Following what the backend does

Commands that go on until the backend is done or the operator interrupts: an open list, a task
under watch, a progress stream.

## Main definitions

* `DeskAction.showList`: a list, printed once or whenever it changes.
* `DeskAction.submitAndWatch`: submits a request and watches its task.
* `DeskAction.callBeside`: makes a call while a watch comes to its rest.
* `DeskAction.followStream`: prints the reports of a progress stream.
-/

namespace TaskDesk.DeskAction

/-- Goes on at a world, from where the operator interrupts if the work is not done there. -/
def resume (world : World DiskVault) (done : Bool) : DeskAction Unit :=
  modify fun d =>
    let d := { d with world }
    if done then d else d.atInterrupt

/-- Fetches a list. Under watch it is printed whenever it changes, until no task in it is active
any more or the operator interrupts; else once. -/
def showList (config : ViewConfig) (watch : Bool) : DeskAction Unit := do
  modify fun d => { d with printer := { showLists := watch } }
  let d ← get
  let s := (Session.opened config d.settings.policy d.world).dispatch .refreshRequested
  let s := if watch then s.awaitPolling { d with world := s.world }.comingInterrupt else s
  let view := s.state.view
  if watch then resume s.dispose.world (s.poller.hasEnded s.poller.currentNumber)
  else
    resume s.world true
    say (Screen.list view)
  if view.authInvalid then throw (.refused "the backend rejected the stored credential")

def submit (r : GenerationRequest) : DeskAction TaskId := do
  let id : TaskId ← call (.submit r)
  sayLine ("Submitted " ++ r.kind.label ++ " task " ++ id)
  return id

/-- Submits a request and watches its task to the end or until the operator interrupts. The watch
that is returned is over, but a call of it may still be on its way. -/
def submitAndWatch (r : GenerationRequest) : DeskAction (TaskId × Watch DiskVault) := do
  let id ← submit r
  let d ← get
  let w := Watch.begin r.kind id d.settings.taskInterval d.settings.policy d.world
  let w := w.await d.comingInterrupt
  resume w.world w.hasEnded
  unless w.hasEnded do
    sayLine ("Stopped watching " ++ id ++ "; the task keeps running on the backend.")
  return (id, w.leave)

/-- Makes a call of the backend while the last call of a watch may still be on its way. -/
def callBeside (w : Watch DiskVault) (c : ApiCall) : DeskAction c.Answer := do
  let d ← get
  let (outcome, w) := { w with world := d.world }.ask c
  set { d with world := w.world }
  ofExcept .api outcome

/-- Prints the reports among values up to the last one of the stream; says whether that was
there. Values that are no reports are passed over, a failure ends everything. -/
def printReports : List (Except ApiError Json) → DeskAction Bool
  | [] => pure false
  | .error e :: _ => throw (.api e)
  | .ok value :: rest =>
    match StreamUpdate.read? value with
    | none => printReports rest
    | some report => do
      sayLine report.line
      if report.isFinal then return true else printReports rest

/-- Prints the reports in the pieces of a body as they come, until the operator interrupts. -/
def printChunks (id : TaskId) (interrupt : Option Nat) (decoder : SseDecoder) :
    List Chunk → DeskAction Unit
  | [] => pure ()
  | chunk :: rest => do
    let d ← get
    if interrupt.any (· < d.world.now + chunk.delay) then
      set d.atInterrupt
      sayLine ("Stopped following " ++ id ++ ".")
    else
      set { d with world := d.world.wait chunk.delay }
      let (decoder, values) := TaskStream.valuesOf decoder chunk.item
      unless ← printReports values do printChunks id interrupt decoder rest

/-- Follows the progress stream of a video task to its end or until the operator interrupts. -/
def followStream (id : TaskId) : DeskAction Unit := do
  let d ← get
  let (outcome, world) := d.world.openStream (streamRequest id)
  set { d with world }
  let chunks ← ofExcept .api outcome
  printChunks id (← get).comingInterrupt {} chunks

end TaskDesk.DeskAction
