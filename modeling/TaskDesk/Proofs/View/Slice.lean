import Mathlib.Data.List.Range
import Mathlib.Tactic.Ring
import TaskDesk.Proofs.View.Reaction

/-!
# The slices of a list

A whole list is cut into pages of one size. The number of pages is the least one whose pages hold
the list, so the slices of the pages that there are put the list together again: each one but the
last is full, the last one has the rest, and behind it there is nothing.

## Main definitions

- `PageCursor.sliceWithin` — a slice whose bounds are counted in numbers that stop at a limit

## Main results

- `PageCursor.total_le` — the pages hold the list
- `PageCursor.mul_lt_total` — one page less would not
- `PageCursor.flatMap_slice` — the first pages together
- `PageCursor.sliceWithin_eq` — no limit of a machine word makes a difference
-/

namespace TaskDesk.PageCursor

variable {α : Type}

/-! ## How many pages there are -/

/-- The pages hold the list, unless there would have to be more of them than can be counted. -/
theorem total_le {c : PageCursor} (hsize : 1 ≤ c.pageSize)
    (h : c.total ≤ c.pageSize * maxPage) : c.total ≤ c.totalPages * c.pageSize := by
  have hdivide := Nat.div_add_mod (c.total + c.pageSize - 1) c.pageSize
  have hrest := Nat.mod_lt (c.total + c.pageSize - 1) hsize
  have hpages : c.totalPages = min maxPage (max 1 ((c.total + c.pageSize - 1) / c.pageSize)) := by
    rw [totalPages, Nat.max_eq_right hsize]
  generalize (c.total + c.pageSize - 1) / c.pageSize = pages at hdivide hpages
  rcases Nat.le_total maxPage (max 1 pages) with hmany | hfew
  · rw [hpages, Nat.min_eq_left hmany, Nat.mul_comm]
    exact h
  · rw [hpages, Nat.min_eq_right hfew]
    calc
      c.total ≤ pages * c.pageSize := by rw [Nat.mul_comm]; omega
      _ ≤ max 1 pages * c.pageSize := Nat.mul_le_mul_right _ (Nat.le_max_right 1 pages)

/-- One page less would not hold the list. -/
theorem mul_lt_total {c : PageCursor} (hsize : 1 ≤ c.pageSize) {n : Nat} (hpos : 1 ≤ n)
    (hn : n < c.totalPages) : n * c.pageSize < c.total := by
  have hmany : n < (c.total + c.pageSize - 1) / c.pageSize := by
    rw [totalPages, Nat.max_eq_right hsize] at hn
    omega
  have hmul := (Nat.le_div_iff_mul_le hsize).mp hmany
  rw [Nat.succ_mul] at hmul
  omega

/-! ## What is on a page -/

theorem slice_succ (c : PageCursor) (n : Nat) (rows : List α) :
    { c with page := n + 1 }.slice rows = (rows.drop (n * c.pageSize)).take c.pageSize := by
  rw [slice, Nat.add_sub_cancel]

theorem length_slice_succ (c : PageCursor) (n : Nat) (rows : List α) :
    ({ c with page := n + 1 }.slice rows).length =
      min c.pageSize (rows.length - n * c.pageSize) := by
  rw [slice_succ, List.length_take, List.length_drop]

/-- The first pages together are the front of the list. -/
theorem flatMap_slice (c : PageCursor) (n : Nat) (rows : List α) :
    ((List.range' 1 n).flatMap fun page => { c with page }.slice rows) =
      rows.take (n * c.pageSize) := by
  induction n with
  | zero => rw [Nat.zero_mul, List.take_zero]; rfl
  | succ n ih =>
    have hlast : 1 + 1 * n = n + 1 := by ring
    rw [List.range'_concat, List.flatMap_append, List.flatMap_singleton, ih, hlast, slice_succ,
      Nat.succ_mul, List.take_add]

section Pages

variable {c : PageCursor} {rows : List α} (hsize : 1 ≤ c.pageSize) (htotal : c.total = rows.length)

include hsize htotal in
/-- The pages that there are put the list together again. -/
theorem flatMap_slice_totalPages (h : rows.length ≤ c.pageSize * maxPage) :
    ((List.range' 1 c.totalPages).flatMap fun page => { c with page }.slice rows) = rows := by
  rw [flatMap_slice, List.take_of_length_le]
  rw [← htotal] at h ⊢
  exact total_le hsize h

include hsize htotal in
/-- Every page but the last is full. -/
theorem length_slice_of_lt {page : Nat} (hpos : 1 ≤ page) (hlt : page < c.totalPages) :
    ({ c with page }.slice rows).length = c.pageSize := by
  obtain ⟨n, rfl⟩ := Nat.exists_eq_add_of_le' hpos
  have hmore := mul_lt_total hsize hpos hlt
  rw [Nat.succ_mul] at hmore
  rw [length_slice_succ]
  omega

include hsize htotal in
/-- A page that there is has rows, unless the list is empty. -/
theorem one_le_length_slice {page : Nat} (hpos : 1 ≤ page) (hle : page ≤ c.totalPages)
    (hne : rows ≠ []) : 1 ≤ ({ c with page }.slice rows).length := by
  obtain ⟨n, rfl⟩ := Nat.exists_eq_add_of_le' hpos
  have hrows : 1 ≤ rows.length := List.length_pos_iff.mpr hne
  have hbefore : n * c.pageSize < rows.length := by
    by_cases hn : n = 0
    · rw [hn, Nat.zero_mul]
      exact hrows
    · rw [← htotal]
      exact mul_lt_total hsize (by omega) (by omega)
  rw [length_slice_succ]
  omega

theorem length_slice_le (c : PageCursor) (rows : List α) :
    (c.slice rows).length ≤ c.pageSize :=
  List.length_take_le _ _

include hsize htotal in
/-- Behind the last page there is nothing. -/
theorem slice_eq_nil_of_lt (h : rows.length ≤ c.pageSize * maxPage) {page : Nat}
    (hlt : c.totalPages < page) : { c with page }.slice rows = [] := by
  have hpos : 1 ≤ page := Nat.one_le_of_lt hlt
  obtain ⟨n, rfl⟩ := Nat.exists_eq_add_of_le' hpos
  have hall : rows.length ≤ n * c.pageSize := by
    rw [← htotal] at h ⊢
    exact (total_le hsize h).trans (Nat.mul_le_mul_right _ (Nat.le_of_lt_succ hlt))
  rw [slice_succ, List.drop_of_length_le hall, List.take_nil]

end Pages

/-! ## Numbers that stop at a limit -/

/-- The rows on a page, with bounds that are counted in numbers that stop at a limit. -/
def sliceWithin (limit : Nat) (c : PageCursor) (rows : List α) : List α :=
  let first := min limit ((c.page - 1) * c.pageSize)
  if rows.length ≤ first then []
  else
    let last := min (min limit (first + c.pageSize)) rows.length
    (rows.take last).drop first

/-- A limit that the length of the list does not reach makes no difference. -/
theorem sliceWithin_eq {limit : Nat} (c : PageCursor) {rows : List α}
    (h : rows.length ≤ limit) : c.sliceWithin limit rows = c.slice rows := by
  simp only [sliceWithin, slice]
  generalize (c.page - 1) * c.pageSize = first
  by_cases hbehind : rows.length ≤ first
  · rw [if_pos (by omega), List.drop_of_length_le hbehind, List.take_nil]
  · have hfirst : min limit first = first := by omega
    have hlast : min (min limit (first + c.pageSize)) rows.length =
        min (first + c.pageSize) rows.length := by
      omega
    rw [hfirst, if_neg hbehind, hlast, ← List.take_take, List.take_length, List.drop_take,
      Nat.add_sub_cancel_left]

/-- The bounds of pages and page sizes of 32 bits stay below 64 bits. -/
theorem bounds_lt {c : PageCursor} (hpage : c.page < 2 ^ 32) (hsize : c.pageSize < 2 ^ 32) :
    (c.page - 1) * c.pageSize + c.pageSize < 2 ^ 64 := by
  have hmul : (c.page - 1) * c.pageSize ≤ (2 ^ 32 - 1) * (2 ^ 32 - 1) :=
    Nat.mul_le_mul (by omega) (by omega)
  omega

end TaskDesk.PageCursor
