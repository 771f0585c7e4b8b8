import TaskDesk.Json.Value
import TaskDesk.Task.Kind
import TaskDesk.Task.Status

/-!
# Tasks, pages of tasks and list queries

## Main definitions

* `TaskRecord`: one task as the backend reports it.
* `TaskPage`: one page of the task list.
* `ListQuery`: what a list asks the backend for, with `ListQuery.pairs` as it is sent.
-/

namespace TaskDesk

abbrev TaskId := String

/-- A task. -/
structure TaskRecord where
  id : TaskId
  kind : TaskKind
  status : TaskStatus
  /-- Per cent, at most 100. -/
  progress : Nat
  payload : Json
  result : Option Json
  error : Option String
  /-- Seconds since the epoch. -/
  createdAt : Int
deriving Repr, Inhabited

namespace TaskRecord

/-- Work on the task is going on or waiting to begin. -/
def isActive (t : TaskRecord) : Bool :=
  t.status.isActive

end TaskRecord

/-- One page of the task list. -/
structure TaskPage where
  tasks : List TaskRecord
  total : Nat
  page : Nat
  size : Nat
deriving Repr, Inhabited

/-- The order of a list. -/
inductive SortOrder where
  | ascending
  | descending
deriving DecidableEq, Repr, Inhabited

namespace SortOrder

def label : SortOrder → String
  | ascending => "asc"
  | descending => "desc"

end SortOrder

/-- Rows on a page unless something else is asked for. -/
def defaultPageSize : Nat := 20

/-- What a list asks for. Filtering and sorting are the backend's work. -/
structure ListQuery where
  page : Nat := 1
  size : Nat := defaultPageSize
  sortBy : String := "created_at"
  order : SortOrder := .descending
  status : Option TaskStatus := none
  kind : Option TaskKind := none
deriving DecidableEq, Repr, Inhabited

namespace ListQuery

/-- The query parameters, in the order they are sent. -/
def pairs (q : ListQuery) : List (String × String) :=
  [("page", toString q.page), ("size", toString q.size), ("sort_by", q.sortBy),
    ("order", q.order.label)] ++
  (match q.status with
    | some s => [("status", s.label)]
    | none => []) ++
  (match q.kind with
    | some k => [("type", k.label)]
    | none => [])

end ListQuery

end TaskDesk
