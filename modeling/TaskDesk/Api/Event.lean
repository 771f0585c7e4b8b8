import TaskDesk.Api.Error
import TaskDesk.View.Update

/-!
# Events for the front end

## Main definitions

* `Event`, `Event.taskId?`.
-/

namespace TaskDesk

/-- What a front end is told. -/
inductive Event where
  /-- A watched task has a new state. -/
  | taskUpdated (task : TaskRecord)
  /-- A watched task came to its end. -/
  | taskFinished (task : TaskRecord)
  /-- A list may look different. -/
  | listRefreshed (view : ListView)
  /-- The backend rejected a credential, and it was dropped. -/
  | authInvalid (scope : Scope)
  | notice (level : NoticeLevel) (text : String)
deriving Repr, Inhabited

namespace Event

def taskId? : Event → Option TaskId
  | taskUpdated t | taskFinished t => some t.id
  | _ => none

end Event

end TaskDesk
