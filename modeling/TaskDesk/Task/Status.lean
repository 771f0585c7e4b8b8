import TaskDesk.Text.Blank

/-!
# The life cycle of a task

The backend spells some states in two ways; both spellings are one status. A word that spells
no known state is kept as it was sent.

## Main definitions

* `TaskStatus`, `TaskStatus.parse`, `TaskStatus.label`.
* `TaskStatus.isTerminal`, `TaskStatus.isActive`, `TaskStatus.isSuccess`.
-/

namespace TaskDesk

/-- Where a task is in its life. -/
inductive TaskStatus where
  | pending
  | running
  | completed
  | failed
  | cancelled
  | unknown (word : String)
deriving DecidableEq, Repr, Inhabited

namespace TaskStatus

/-- The status that a word spells, blank space around it and ASCII case aside. -/
def known? (word : String) : Option TaskStatus :=
  let w := Text.lowerAscii (Text.trim word)
  if w = "pending" then some .pending
  else if w = "running" ∨ w = "processing" then some .running
  else if w = "completed" ∨ w = "success" then some .completed
  else if w = "failed" then some .failed
  else if w = "cancelled" then some .cancelled
  else none

/-- The status of a word; an unknown word is kept whole. -/
def parse (word : String) : TaskStatus :=
  (known? word).getD (.unknown word)

def label : TaskStatus → String
  | pending => "pending"
  | running => "running"
  | completed => "completed"
  | failed => "failed"
  | cancelled => "cancelled"
  | unknown word => word

/-- No further change is expected. -/
def isTerminal : TaskStatus → Bool
  | completed | failed | cancelled => true
  | _ => false

/-- Work is going on or waiting to begin. -/
def isActive : TaskStatus → Bool
  | pending | running => true
  | _ => false

/-- The task came to a good end. -/
def isSuccess : TaskStatus → Bool
  | completed => true
  | _ => false

/-- The status is not one of the known ones. -/
def isUnknown : TaskStatus → Bool
  | unknown _ => true
  | _ => false

end TaskStatus

end TaskDesk
