import TaskDesk.Task.Basic

/-!
# The selection

The tasks that an operator has ticked, whatever page is shown. Identifiers are kept in their
order, each once. Tasks that are gone may linger in the selection; the mark of the group control
looks at the shown rows only.

## Main definitions

* `Selection`, `Selection.has`, `Selection.toggle`, `Selection.toggleAll`, `Selection.removeAll`.
* `GroupMark`, `Selection.mark`: the mark of the group control.
-/

namespace TaskDesk

/-- The mark of the control that ticks all shown rows. -/
inductive GroupMark where
  | none
  | some
  | all
deriving DecidableEq, Repr, Inhabited

/-- The ticked tasks. -/
structure Selection where
  ids : List TaskId := []
deriving DecidableEq, Repr, Inhabited

namespace Selection

/-- Puts an identifier in its place in a sorted list. -/
def place (id : TaskId) : List TaskId → List TaskId
  | [] => [id]
  | x :: xs =>
    if id = x then x :: xs
    else if id < x then id :: x :: xs
    else x :: place id xs

def has (s : Selection) (id : TaskId) : Bool :=
  s.ids.contains id

def isEmpty (s : Selection) : Bool :=
  s.ids.isEmpty

def size (s : Selection) : Nat :=
  s.ids.length

def insert (s : Selection) (id : TaskId) : Selection :=
  ⟨place id s.ids⟩

def remove (s : Selection) (id : TaskId) : Selection :=
  ⟨s.ids.filter (· ≠ id)⟩

def toggle (s : Selection) (id : TaskId) : Selection :=
  if s.has id then s.remove id else s.insert id

def removeAll (s : Selection) (ids : List TaskId) : Selection :=
  ids.foldl remove s

def insertAll (s : Selection) (ids : List TaskId) : Selection :=
  ids.foldl insert s

/-- The group control: unticks the shown tasks if all of them are ticked, else ticks all. -/
def toggleAll (s : Selection) (shown : List TaskId) : Selection :=
  if shown.isEmpty then s
  else if shown.all s.has then s.removeAll shown
  else s.insertAll shown

/-- The mark of the group control over the shown tasks. -/
def mark (s : Selection) (shown : List TaskId) : GroupMark :=
  let ticked := shown.countP s.has
  if ticked = 0 then .none
  else if ticked = shown.length then .all
  else .some

theorem mem_place {id x : TaskId} {xs : List TaskId} : x ∈ place id xs ↔ x = id ∨ x ∈ xs := by
  induction xs with
  | nil => simp [place]
  | cons y ys ih => grind [place]

theorem has_insert (s : Selection) (id x : TaskId) :
    (s.insert id).has x = (x == id || s.has x) := by
  rw [Bool.eq_iff_iff]
  simp [insert, has, mem_place]

theorem has_remove (s : Selection) (id x : TaskId) :
    (s.remove id).has x = (x != id && s.has x) := by
  rw [Bool.eq_iff_iff]
  simp [remove, has, and_comm]

end Selection

end TaskDesk
