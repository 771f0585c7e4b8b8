import Mathlib.Algebra.Order.Floor.Div
import Mathlib.Data.Rat.Floor
import TaskDesk.Proofs.View.Paging

/-!
# Steps between pages, in machine words

A page is a number of 32 bits, a total one of 64 bits, and a distance of pages a signed one of
64 bits. How many pages there are is a quotient that never overflows and stops at `maxPage`. A
step is a sum that can overflow: from page 1 the greatest distance does. Below that, every step
leads to the page that it names, if there is one, and otherwise nowhere. A sum that overflowed
unnoticed would be no page either.

## Main definitions

- `PageCursor.WordSized` — the numbers of a cursor are in the range of their words
- `PageCursor.quotientUp` — a quotient rounded up, as it is computed in words

## Main results

- `PageCursor.toNat_quotientUp` — the quotient does not overflow
- `PageCursor.target?_eq` — which sums overflow
- `ListState.wordSized_run` — after every run the cursor is in the range of its words
- `ListState.turns_unless_sum_overflows` — a view turns to the page named, unless the sum overflows
- `ListState.sum_overflows_from_first_page` — it can overflow
-/

namespace TaskDesk

namespace PageCursor

/-- The numbers of a cursor are in the range of their words, and the page is not zero. -/
structure WordSized (c : PageCursor) : Prop where
  one_le_page : 1 ≤ c.page
  page_le : c.page ≤ maxPage
  pageSize_lt : c.pageSize < UInt32.size
  total_lt : c.total < UInt64.size

/-! ## How many pages there are -/

/-- The quotient of two words, rounded up. -/
def quotientUp (n d : UInt64) : UInt64 :=
  if 0 < n % d then n / d + 1 else n / d

/-- A quotient that is rounded up is below the dividend, so the sum does not overflow. -/
theorem toNat_quotientUp {n d : UInt64} (hd : 1 ≤ d.toNat) :
    (quotientUp n d).toNat = n.toNat ⌈/⌉ d.toNat := by
  have hn : n.toNat < 2 ^ 64 := n.toNat_lt
  have hdivide := Nat.div_add_mod n.toNat d.toNat
  have hrest := Nat.mod_lt n.toNat hd
  have hup : n.toNat ⌈/⌉ d.toNat =
      n.toNat / d.toNat + (n.toNat % d.toNat + d.toNat - 1) / d.toNat := by
    rw [Nat.ceilDiv_eq_add_pred_div, ← Nat.mul_add_div hd]
    congr 1
    omega
  have hle : n.toNat / d.toNat ≤ d.toNat * (n.toNat / d.toNat) := Nat.le_mul_of_pos_left _ hd
  rw [hup]
  unfold quotientUp
  simp only [UInt64.lt_iff_toNat_lt, UInt64.toNat_mod, UInt64.toNat_zero]
  split
  · have hone : (n.toNat % d.toNat + d.toNat - 1) / d.toNat = 1 :=
      Nat.div_eq_of_lt_le (by omega) (by omega)
    rw [hone, UInt64.toNat_add, UInt64.toNat_div, UInt64.toNat_one]
    exact Nat.mod_eq_of_lt (by omega)
  · have hzero : (n.toNat % d.toNat + d.toNat - 1) / d.toNat = 0 := Nat.div_eq_of_lt (by omega)
    rw [hzero, UInt64.toNat_div, Nat.add_zero]

theorem ceil_div_eq (n : Nat) {d : Nat} (hd : 1 ≤ d) : ⌈(n : ℚ) / d⌉₊ = n ⌈/⌉ d := by
  have hpos : (0 : ℚ) < d := by exact_mod_cast hd
  refine eq_of_forall_ge_iff fun k => ?_
  calc
    ⌈(n : ℚ) / d⌉₊ ≤ k ↔ (n : ℚ) / d ≤ k := Nat.ceil_le
    _ ↔ (n : ℚ) ≤ k * d := div_le_iff₀ hpos
    _ ↔ n ≤ d * k := by rw [mul_comm]; exact_mod_cast Iff.rfl
    _ ↔ n ⌈/⌉ d ≤ k := (ceilDiv_le_iff_le_mul hd).symm

theorem totalPages_eq_ceil (c : PageCursor) :
    c.totalPages = min maxPage (max 1 ⌈(c.total : ℚ) / (max 1 c.pageSize : ℕ)⌉₊) := by
  rw [ceil_div_eq _ (Nat.le_max_left 1 _)]
  rfl

/-- The number of pages is computed in words of 64 bits. -/
theorem WordSized.toNat_pages {c : PageCursor} (h : c.WordSized) :
    (quotientUp (.ofNat c.total) (.ofNat (max 1 c.pageSize))).toNat =
      ⌈(c.total : ℚ) / (max 1 c.pageSize : ℕ)⌉₊ := by
  have hone : 1 ≤ max 1 c.pageSize := Nat.le_max_left 1 _
  have hsize : max 1 c.pageSize < UInt64.size :=
    (max_lt (by decide) h.pageSize_lt).trans (by decide : UInt32.size < UInt64.size)
  have hword : (UInt64.ofNat (max 1 c.pageSize)).toNat = max 1 c.pageSize :=
    UInt64.toNat_ofNat_of_lt' hsize
  rw [toNat_quotientUp (hword.symm ▸ hone), hword, UInt64.toNat_ofNat_of_lt' h.total_lt,
    ceil_div_eq _ hone]

/-! ## Steps -/

/-- A sum overflows above, never below. -/
theorem target?_eq {c : PageCursor} (h : c.WordSized) (delta : Int64) :
    c.target? delta.toInt =
      if c.page + delta.toInt ≤ Int64.maxValue.toInt then some (c.page + delta.toInt)
      else none := by
  have hpage := h.one_le_page
  have hleast := delta.le_toInt
  rw [Int64.toInt_maxValue]
  unfold target?
  by_cases hmost : c.page + delta.toInt ≤ 2 ^ 63 - 1
  · rw [if_pos (Int64.toInt_ofInt_of_le (by omega) (by omega)), if_pos hmost]
  · have hword := (Int64.ofInt (c.page + delta.toInt)).toInt_lt
    rw [if_neg (by omega), if_neg hmost]

theorem target?_eq_none_iff {c : PageCursor} (h : c.WordSized) (delta : Int64) :
    c.target? delta.toInt = none ↔ Int64.maxValue.toInt < c.page + delta.toInt := by
  rw [target?_eq h, ite_eq_right_iff, ← not_le]
  simp

/-- Unnoticed, a sum that overflows is negative. -/
theorem toInt_ofInt_neg {c : PageCursor} (h : c.WordSized) {delta : Int64}
    (hover : Int64.maxValue.toInt < c.page + delta.toInt) :
    (Int64.ofInt (c.page + delta.toInt)).toInt < 0 := by
  have hpage : c.page ≤ 2 ^ 32 - 1 := h.page_le
  have hmost := delta.toInt_lt
  rw [Int64.toInt_maxValue] at hover
  rw [Int64.toInt_ofInt, Int64.size, Int.bmod_def]
  omega

theorem step?_eq_some_iff (c : PageCursor) (delta : Int) (page : Nat) :
    c.step? delta = some page ↔ page = c.page + delta ∧ 1 ≤ page ∧ page ≤ c.totalPages := by
  rw [step?_eq]
  split
  · rw [Option.some_inj]
    omega
  · refine iff_of_false (by simp) ?_
    omega

theorem one_le_maxPage : 1 ≤ maxPage := by decide

theorem wordSized_clamped {c : PageCursor} (hsize : c.pageSize < UInt32.size)
    (htotal : c.total < UInt64.size) : c.clamped.WordSized where
  one_le_page := c.one_le_clamped_page
  page_le := c.clamped_page_le.trans c.clamped.totalPages_le
  pageSize_lt := hsize
  total_lt := htotal

end PageCursor

/-- The numbers that a message brings are in the range of their words. -/
def Message.WordSized : Message → Prop
  | .pageLoaded _ snapshot => snapshot.total < UInt64.size
  | .pageSizeChanged size => size < UInt32.size
  | _ => True

namespace ListState

/-- The numbers of the position are in the range of their words. -/
structure WordSized (s : ListState) : Prop where
  cursor : s.cursor.WordSized
  size_lt : s.query.size < UInt32.size

/-! ## One message -/

theorem WordSized.of_eq {s t : ListState} (h : s.WordSized) (hcursor : t.cursor = s.cursor)
    (hsize : t.query.size = s.query.size) : t.WordSized where
  cursor := hcursor ▸ h.cursor
  size_lt := hsize ▸ h.size_lt

theorem WordSized.load {s : ListState} (h : s.WordSized) {snapshot : Snapshot}
    (htotal : snapshot.total < UInt64.size) : (s.load snapshot).2.WordSized := by
  have hmost : max 1 s.query.size < UInt32.size := max_lt (by decide) h.size_lt
  cases hmode : s.mode with
  | server =>
    obtain ⟨hcursor, hquery⟩ := load_of_server hmode snapshot
    refine ⟨?_, ?_⟩
    · rw [hcursor]
      exact PageCursor.wordSized_clamped hmost htotal
    · rw [hquery]
      exact h.size_lt
  | client =>
    obtain ⟨hcursor, hquery⟩ := load_of_client hmode snapshot
    refine ⟨?_, ?_⟩
    · rw [hcursor]
      exact PageCursor.wordSized_clamped h.cursor.pageSize_lt htotal
    · rw [hquery]
      exact h.size_lt

theorem WordSized.receive {s : ListState} (h : s.WordSized) (query : ListQuery)
    {snapshot : Snapshot} (htotal : snapshot.total < UInt64.size) :
    (s.receive query snapshot).1.WordSized := by
  unfold ListState.receive
  split
  · simp only
    split
    · rw [fetch_eq]
      exact (h.load htotal).of_eq rfl rfl
    · rw [settlePolling_eq]
      exact (h.load htotal).of_eq rfl rfl
  · exact h

theorem WordSized.setClientPage {s : ListState} (h : s.WordSized) (page : Nat) :
    (s.setClientPage page).WordSized where
  cursor := PageCursor.wordSized_clamped h.cursor.pageSize_lt h.cursor.total_lt
  size_lt := h.size_lt

theorem WordSized.goTo {s : ListState} (h : s.WordSized) (page : Nat) :
    (s.goTo page).1.WordSized := by
  unfold ListState.goTo
  split
  · rw [fetch_eq]
    exact h.of_eq rfl rfl
  · exact h.setClientPage page

theorem WordSized.toFirstPage {s : ListState} (h : s.WordSized) : s.toFirstPage.WordSized where
  cursor := { h.cursor with one_le_page := le_rfl, page_le := PageCursor.one_le_maxPage }
  size_lt := h.size_lt

theorem WordSized.setPageSize {s : ListState} (h : s.WordSized) {size : Nat}
    (hsize : size < UInt32.size) : (s.setPageSize size).WordSized where
  cursor :=
    { h.cursor with
      one_le_page := le_rfl
      page_le := PageCursor.one_le_maxPage
      pageSize_lt := hsize }
  size_lt := by
    unfold ListState.setPageSize
    split
    · exact hsize
    · exact h.size_lt

theorem WordSized.resize {s : ListState} (h : s.WordSized) {size : Nat}
    (hsize : size < UInt32.size) : (s.resize size).1.WordSized := by
  unfold ListState.resize
  split
  · exact h
  · simp only
    split
    · rw [fetch_eq]
      exact (h.setPageSize hsize).of_eq rfl rfl
    · exact (h.setPageSize hsize).setClientPage 1

theorem WordSized.react {s : ListState} (h : s.WordSized) {m : Message} (hm : m.WordSized) :
    (s.react m).1.WordSized := by
  cases m with
  | pageLoaded query snapshot => exact h.receive query hm
  | pageChanged delta =>
    simp only [ListState.react]
    split
    · exact h.goTo _
    · exact h
  | pageSizeChanged size => exact h.resize hm
  | statusFilterChanged | kindFilterChanged =>
    rw [ListState.react, fetch_eq]
    exact (h.of_eq rfl rfl : WordSized { s with query := _ }).toFirstPage.of_eq rfl rfl
  | refreshRequested =>
    rw [ListState.react, fetch_eq]
    exact h.of_eq rfl rfl
  | loadFailed reason =>
    rw [ListState.react, setLoading_eq]
    exact h.of_eq rfl rfl
  | selectionToggled task =>
    simp only [ListState.react, toggleTask]
    split <;> exact h.of_eq rfl rfl
  | batchDeleted | tasksCleared =>
    simp only [ListState.react, announce, fetch_eq]
    exact h.of_eq rfl rfl
  | authInvalid | disposed =>
    rw [ListState.react, stopPolling_eq]
    exact h.of_eq rfl rfl
  | selectAllToggled | selectionCleared => exact h.of_eq rfl rfl
  | batchDeleteRequested | clearTasksRequested | actionFailed => exact h.of_eq rfl rfl

theorem WordSized.update {s : ListState} (h : s.WordSized) {m : Message} (hm : m.WordSized) :
    (s.update m).1.WordSized := by
  unfold ListState.update
  split
  · exact h
  · exact h.react hm

/-- A message makes a sum overflow exactly if it names a distance that is too large for the page
that an open view is on. -/
theorem WordSized.update?_eq_none_iff {s : ListState} (h : s.WordSized) (delta : Int64) :
    s.update? (.pageChanged delta.toInt) = none ↔
      s.disposed = false ∧ Int64.maxValue.toInt < s.cursor.page + delta.toInt := by
  simp [update?, overflows, PageCursor.target?_eq_none_iff h.cursor]

/-! ## Whole runs -/

theorem wordSized_run {s : ListState} (h : s.WordSized) {ms : List Message}
    (hms : ∀ m ∈ ms, m.WordSized) : (s.run ms).WordSized := by
  induction ms generalizing s with
  | nil => exact h
  | cons m ms ih =>
    obtain ⟨hm, hms⟩ := List.forall_mem_cons.mp hms
    exact ih (h.update hm) hms

/-- Whatever the numbers of a cursor are, as long as each is in the range of its word: to step a
distance away the page and the distance are added, and the sum overflows exactly if it is greater
than the greatest signed number of 64 bits; unnoticed it would be negative then. A step leads to the
page that far away exactly if there is such a page. There are as many pages as the total divided by
the page size, rounded up, but at least one and at most `maxPage`, and nothing overflows on the way
to that number. After every run of a view the numbers of its cursor are in the range of their words,
so that a distance of pages makes a sum overflow exactly if the view is open and the distance that
large. -/
theorem turns_unless_sum_overflows {s : ListState} (hs : s.Opened) (hsized : s.WordSized)
    {ms : List Message} (hms : ∀ m ∈ ms, m.WordSized) (delta : Int64) :
    let t := s.run ms
    (∀ c : PageCursor, c.WordSized →
      c.target? delta.toInt =
          (if c.page + delta.toInt ≤ Int64.maxValue.toInt then some (c.page + delta.toInt)
          else none) ∧
        (Int64.maxValue.toInt < c.page + delta.toInt →
          (Int64.ofInt (c.page + delta.toInt)).toInt < 0) ∧
        (∀ page : Nat, c.step? delta.toInt = some page ↔
          page = c.page + delta.toInt ∧ 1 ≤ page ∧ page ≤ c.totalPages) ∧
        c.totalPages = min PageCursor.maxPage (max 1 ⌈(c.total : ℚ) / (max 1 c.pageSize : ℕ)⌉₊) ∧
        (PageCursor.quotientUp (.ofNat c.total) (.ofNat (max 1 c.pageSize))).toNat =
          ⌈(c.total : ℚ) / (max 1 c.pageSize : ℕ)⌉₊) ∧
      t.cursor.WordSized ∧
      (t.update? (.pageChanged delta.toInt) = none ↔
        .disposed ∉ ms ∧ Int64.maxValue.toInt < t.cursor.page + delta.toInt) := by
  intro t
  have ht : t.WordSized := wordSized_run hsized hms
  refine ⟨fun c hc => ⟨PageCursor.target?_eq hc delta, PageCursor.toInt_ofInt_neg hc,
    c.step?_eq_some_iff delta.toInt, c.totalPages_eq_ceil, hc.toNat_pages⟩, ht.cursor, ?_⟩
  rw [ht.update?_eq_none_iff delta, ← Bool.not_eq_true, hs.disposed_run_iff]

/-- A view is on the last page that there can be, of a list with as many tasks as can be counted.
One page back there is another one; the greatest distance makes the sum overflow. -/
theorem turns_unless_sum_overflows_on_last_page :
    let s := ofQuery .server { page := PageCursor.maxPage, size := 1 }
    let ms : List Message := [.pageLoaded s.query ⟨[], UInt64.size - 1⟩]
    let t := s.run ms
    t.cursor.WordSized ∧ t.cursor.totalPages = PageCursor.maxPage ∧
      t.cursor.step? (-1 : Int64).toInt = some (PageCursor.maxPage - 1) ∧
      t.update? (.pageChanged Int64.maxValue.toInt) = none := by
  intro s ms t
  have hs : s.Opened := .ofQuery _ _
  have hsized : s.WordSized := ⟨⟨by decide, by decide, by decide, by decide⟩, by decide⟩
  have hms : ∀ m ∈ ms, m.WordSized :=
    List.forall_mem_singleton.mpr (by decide : UInt64.size - 1 < _)
  obtain ⟨hcursor, ht, -⟩ := turns_unless_sum_overflows hs hsized hms (-1)
  obtain ⟨-, -, hover⟩ := turns_unless_sum_overflows hs hsized hms .maxValue
  obtain ⟨-, -, hstep, -⟩ := hcursor t.cursor ht
  have hopen : .disposed ∉ ms := by simp [ms]
  exact ⟨ht, by decide, (hstep _).mpr (by decide), hover.mpr ⟨hopen, by decide⟩⟩

/-- Already on the first page the greatest distance makes the sum overflow. -/
theorem sum_overflows_from_first_page :
    ¬ ∀ (s : ListState) (ms : List Message) (delta : Int64), s.Opened → s.WordSized →
        (∀ m ∈ ms, m.WordSized) → (s.run ms).update? (.pageChanged delta.toInt) ≠ none := by
  intro hgoes
  have hsized : initial.WordSized := ⟨⟨by decide, by decide, by decide, by decide⟩, by decide⟩
  exact hgoes initial [] .maxValue .initial hsized (List.forall_mem_nil _) (by decide)

end ListState

end TaskDesk
