import TaskDesk.Json.Record
import TaskDesk.Task.Basic

/-!
# Tasks on the wire

How tasks and pages are read from what the backend sends, and how they are written.

## Main definitions

* `TaskRecord.read?`, `TaskPage.read?`.
* `TaskRecord.toJson`, `TaskPage.toJson`.
-/

namespace TaskDesk

open Json

variable {σ : Type} [Source σ]

namespace TaskRecord

/-- Per cent from any number: the whole part, but at least 0 and at most 100. -/
def progressOf (x : Binary64) : Nat :=
  if x.negative then 0 else min 100 x.wholePart

/-- Seconds from any number: the whole part, within 64 bits. -/
def secondsOf (x : Binary64) : Int :=
  let bound : Int := Nat.pow 2 63
  max (-bound) (min (bound - 1) x.truncate)

def read? (s : σ) : Option TaskRecord := do
  let fields ← Fields.of? 8 s
  let id ← fields.required? 0 ["id", "task_id", "taskId"] Read.string
  let kind ← fields.required? 1 ["type"] (Read.tag TaskKind.ofLabel?)
  let status ← fields.required? 2 ["status"] Read.string
  let progress ← fields.withDefault? 3 ["progress"] none (Read.nullable Read.float)
  let payload ← fields.withDefault? 4 ["payload"] Json.null Read.any
  let result ← fields.withDefault? 5 ["result"] none (Read.nullable Read.any)
  let error ← fields.withDefault? 6 ["error", "errorMsg"] none (Read.nullable Read.string)
  let createdAt ← fields.withDefault? 7 ["created_at"] none (Read.nullable Read.float)
  some
    { id, kind, status := TaskStatus.parse status
      progress := (progress.map progressOf).getD 0
      payload, result, error
      createdAt := (createdAt.map secondsOf).getD 0 }

def toJson (t : TaskRecord) : Json :=
  Json.object
    [("id", .str t.id), ("type", .str t.kind.label), ("status", .str t.status.label),
      ("progress", .nat t.progress), ("payload", t.payload),
      ("result", t.result.getD .null), ("error", .ofOption .str t.error),
      ("created_at", .int t.createdAt)]

end TaskRecord

namespace TaskPage

def read? (s : σ) : Option TaskPage := do
  let fields ← Fields.of? 4 s
  let tasks ← fields.withDefault? 0 ["data"] [] (Read.list TaskRecord.read?)
  let total ← fields.withDefault? 1 ["total"] 0 Read.nat64
  let page ← fields.withDefault? 2 ["page"] 1 Read.nat32
  let size ← fields.withDefault? 3 ["size"] 0 Read.nat32
  some { tasks, total, page, size }

def toJson (p : TaskPage) : Json :=
  Json.object
    [("data", .arr (p.tasks.map TaskRecord.toJson)), ("total", .nat p.total),
      ("page", .nat p.page), ("size", .nat p.size)]

end TaskPage

end TaskDesk
