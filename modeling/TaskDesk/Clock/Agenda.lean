/-!
# The agenda

What waits for the clock. The entry that is due first is taken first; of those due at the same
time the urgent ones go first, and else the one that was put down first.

## Main definitions

* `Agenda.Entry`, `Agenda.Entry.precedes`.
* `Agenda.earliest?`: the next entry and the others.
-/

namespace TaskDesk.Agenda

/-- Something to go on with at a time. -/
structure Entry (τ : Type) where
  due : Nat
  urgent : Bool := false
  job : τ
deriving Repr

variable {τ : Type}

/-- An entry that goes before another one although it was put down later. -/
def Entry.precedes (e f : Entry τ) : Bool :=
  e.due < f.due || (e.due == f.due && e.urgent && !f.urgent)

/-- The next entry, and the others in their order. -/
def earliest? : List (Entry τ) → Option (Entry τ × List (Entry τ))
  | [] => none
  | e :: es =>
    match earliest? es with
    | none => some (e, [])
    | some (f, rest) => if f.precedes e then some (f, e :: rest) else some (e, es)

/-- The next entry that is due by a time. -/
def dueBy? (limit : Option Nat) (es : List (Entry τ)) : Option (Entry τ × List (Entry τ)) :=
  match earliest? es with
  | none => none
  | some (e, rest) =>
    match limit with
    | none => some (e, rest)
    | some t => if e.due ≤ t then some (e, rest) else none

end TaskDesk.Agenda
