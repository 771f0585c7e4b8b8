import TaskDesk.Task.Basic

/-!
# The position in a paged list

## Main definitions

* `PageCursor`, `PageCursor.of`.
* `PageCursor.totalPages`, `PageCursor.clamped`, `PageCursor.step?`, `PageCursor.slice`.

## Design notes

A page, a page size and a total are natural numbers; only where a number is computed that its
type may not hold is that said. There are at most `maxPage` pages, and the page that a step leads
to is a sum of 64 bits, which can overflow.
-/

namespace TaskDesk

/-- A page, how many rows a page has and how many rows there are. -/
structure PageCursor where
  page : Nat
  pageSize : Nat
  total : Nat
deriving DecidableEq, Repr

namespace PageCursor

def maxPage : Nat := Nat.pow 2 32 - 1

/-- A cursor with page and page size raised to at least one. -/
def of (page pageSize total : Nat) : PageCursor :=
  ⟨max 1 page, max 1 pageSize, total⟩

instance : Inhabited PageCursor where
  default := of 1 defaultPageSize 0

/-- How many pages there are: at least one, also for an empty list, and at most `maxPage`. -/
def totalPages (c : PageCursor) : Nat :=
  let size := max 1 c.pageSize
  min maxPage (max 1 ((c.total + size - 1) / size))

/-- The cursor with its page pulled back into the list. -/
def clamped (c : PageCursor) : PageCursor :=
  { c with page := max 1 (min c.page c.totalPages) }

def hasPrevious (c : PageCursor) : Bool :=
  1 < c.page

def hasNext (c : PageCursor) : Bool :=
  c.page < c.totalPages

/-- The number of the page so many pages away, whether there is such a page or not. It is a signed
number of 64 bits; there is none if the sum overflows. -/
def target? (c : PageCursor) (delta : Int) : Option Int :=
  let target := (c.page : Int) + delta
  if (Int64.ofInt target).toInt = target then some target else none

/-- The page so many pages away, if there is one. A sum that overflows leads to no page. -/
def step? (c : PageCursor) (delta : Int) : Option Nat :=
  match c.target? delta with
  | some target => if 1 ≤ target ∧ target ≤ c.totalPages then some target.toNat else none
  | none => none

/-- The rows of a whole list that are on the page. -/
def slice {α : Type} (c : PageCursor) (rows : List α) : List α :=
  (rows.drop ((c.page - 1) * c.pageSize)).take c.pageSize

@[simp] theorem totalPages_clamped (c : PageCursor) : c.clamped.totalPages = c.totalPages :=
  rfl

theorem totalPages_le (c : PageCursor) : c.totalPages ≤ maxPage :=
  Nat.min_le_left _ _

/-- No page is so far away that the sum overflows on the way to it. -/
theorem step?_eq (c : PageCursor) (delta : Int) :
    c.step? delta =
      if 1 ≤ c.page + delta ∧ c.page + delta ≤ c.totalPages then some (c.page + delta).toNat
      else none := by
  have hmost : c.totalPages ≤ 2 ^ 32 - 1 := c.totalPages_le
  unfold step? target?
  by_cases hfits : (Int64.ofInt (c.page + delta)).toInt = c.page + delta
  · rw [if_pos hfits]
  · rw [if_neg hfits, if_neg fun h => hfits (Int64.toInt_ofInt_of_le (by omega) (by omega))]

end PageCursor

end TaskDesk
