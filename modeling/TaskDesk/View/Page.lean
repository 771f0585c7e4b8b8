import TaskDesk.Task.Summary
import TaskDesk.View.Cursor
import TaskDesk.View.Selection

/-!
# Rows and pages as they are shown

A page of rows is made from tasks and the selection. The selection is not changed by that; rows
only show it.

## Main definitions

* `TaskRow`, `TaskRow.of`.
* `ShownPage`, `ShownPage.of`, `ShownPage.remark`.
* `ListView`: everything a front end needs to draw a list.
-/

namespace TaskDesk

/-- A row of a list. -/
structure TaskRow where
  id : TaskId
  kind : TaskKind
  status : TaskStatus
  progress : Nat
  summary : String
  /-- Present for tasks that came to a good end. -/
  media : Option Media
  error : Option String
  createdAt : Int
  selected : Bool
deriving DecidableEq, Repr, Inhabited

namespace TaskRow

def of (selection : Selection) (t : TaskRecord) : TaskRow where
  id := t.id
  kind := t.kind
  status := t.status
  progress := t.progress
  summary := Summary.ofPayload t.payload
  media := if t.status.isSuccess then some (Media.extract t.kind t.result) else none
  error := t.error
  createdAt := t.createdAt
  selected := selection.has t.id

end TaskRow

/-- The rows of a page, the mark of the group control and the position. -/
structure ShownPage where
  rows : List TaskRow := []
  mark : GroupMark := .none
  cursor : PageCursor := default
deriving DecidableEq, Repr, Inhabited

namespace ShownPage

def ids (p : ShownPage) : List TaskId :=
  p.rows.map TaskRow.id

def of (tasks : List TaskRecord) (selection : Selection) (cursor : PageCursor) : ShownPage :=
  let rows := tasks.map (TaskRow.of selection)
  { rows, mark := selection.mark (rows.map TaskRow.id), cursor }

/-- The same page with the marks of another selection. -/
def remark (p : ShownPage) (selection : Selection) : ShownPage :=
  { p with
    rows := p.rows.map fun r => { r with selected := selection.has r.id }
    mark := selection.mark p.ids }

end ShownPage

/-- What a front end needs to draw a list. -/
structure ListView where
  rows : List TaskRow := []
  mark : GroupMark := .none
  cursor : PageCursor := default
  selectedCount : Nat := 0
  statusFilter : Option TaskStatus := none
  kindFilter : Option TaskKind := none
  polling : Bool := false
  loading : Bool := false
  authInvalid : Bool := false
  dirty : Bool := false
deriving DecidableEq, Repr, Inhabited

end TaskDesk
