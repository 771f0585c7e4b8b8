import TaskDesk.Proofs.View.Paging
import TaskDesk.Proofs.View.Position
import TaskDesk.Proofs.View.Slice

/-!
# Leafing through a list

A list paged by the client has all its tasks at hand and shows one slice of them. Whoever starts on
the first page and turns to the next one until there is none has seen all slices, and so every task
once and in order.

## Main definitions

- `Message.Browses` — messages that neither replace the list nor ask for another one
- `ListState.Browsable` — what such a list is like once it has all its tasks
- `ListState.LeafsThrough` — the pages that are seen on the way to the last one

## Main results

- `ListState.Browsable.update` — a message that only browses leaves it so
- `ListState.Browsable.leafsThrough_iff` — the pages that are seen are the slices from here on
- `ListState.pages_partition` — they put the list together
-/

namespace TaskDesk

namespace PageCursor

theorem step?_one_of_lt {c : PageCursor} (h : c.page < c.totalPages) :
    c.step? 1 = some (c.page + 1) := by
  rw [step?_eq, if_pos (by omega)]
  rfl

theorem step?_one_of_le {c : PageCursor} (h : c.totalPages ≤ c.page) : c.step? 1 = none := by
  rw [step?_eq, if_neg (by omega)]

/-- A cursor on a page that there is stays there. -/
theorem clamped_eq_self {c : PageCursor} (hpos : 1 ≤ c.page) (hle : c.page ≤ c.totalPages) :
    c.clamped = c := by
  calc
    c.clamped = { c with page := c.clamped.page } := rfl
    _ = c := by rw [clamped_page_of_le hpos hle]

end PageCursor

/-- The message neither brings a list nor asks for one with other filters nor closes the view. -/
def Message.Browses : Message → Prop
  | .pageLoaded _ _ | .statusFilterChanged _ | .kindFilterChanged _ | .disposed => False
  | _ => True

namespace ListState

/-- An open list paged by the client that has taken in all these tasks and shows the rows of its
position. -/
structure Browsable (s : ListState) (tasks : List TaskRecord) : Prop where
  mode_eq : s.mode = .client
  disposed_eq : s.disposed = false
  shows : s.Shows tasks tasks.length
  fits : s.Fits s.cursor

/-- The pages that are seen, this one first, when the next page is asked for until that is
ignored. -/
inductive LeafsThrough : ListState → List (List TaskRow) → Prop
  | last {s : ListState} (h : s.update (.pageChanged 1) = (s, [])) : LeafsThrough s [s.view.rows]
  | next {s t : ListState} {pages : List (List TaskRow)} (h : s.update (.pageChanged 1) = (t, []))
      (hne : t ≠ s) (hrest : LeafsThrough t pages) : LeafsThrough s (s.view.rows :: pages)

/-! ## One message -/

theorem not_isReply_of_browses {s : ListState} {m : Message} (hm : m.Browses) : ¬ s.IsReply m := by
  rintro ⟨snapshot, rfl⟩
  exact hm

theorem not_strays_of_browses {s : ListState} {m : Message} (hm : m.Browses)
    (hmode : s.mode = .client) : ¬ s.Strays m := by
  intro hstray
  cases m with
  | statusFilterChanged | kindFilterChanged => exact hm
  | pageSizeChanged => cases hmode.symm.trans hstray.1
  | _ => exact hstray

/-- The whole list makes a list paged by the client browsable. -/
theorem browsable_full {s : ListState} (hmode : s.mode = .client) (hopen : s.disposed = false)
    (tasks : List TaskRecord) :
    (s.update (.pageLoaded s.query (.full tasks))).1.Browsable tasks := by
  have hclient := (mode_update s (.pageLoaded s.query (.full tasks))).trans hmode
  have hfits := (draws_update hopen (.pageLoaded s.query (.full tasks))).fits_of_redraws rfl hclient
  refine ⟨hclient, ?_, shows_update_reply hopen _, hfits⟩
  simpa [hopen] using mt (disposed_update_iff s (.pageLoaded s.query (.full tasks))).mp

theorem Browsable.update {s : ListState} {tasks : List TaskRecord} (h : s.Browsable tasks)
    {m : Message} (hm : m.Browses) : (s.update m).1.Browsable tasks := by
  have hdraws := draws_update h.disposed_eq m
  have hmode : (s.update m).1.mode = .client := (mode_update s m).trans h.mode_eq
  refine ⟨hmode, ?_, shows_update (.inr (not_isReply_of_browses hm)) h.shows, ?_⟩
  · have hstays : m ≠ .disposed := by
      rintro rfl
      exact hm
    simpa [h.disposed_eq, hstays] using mt (disposed_update_iff s m).mp
  · by_cases hredraw : s.Redraws m
    · exact hdraws.fits_of_redraws hredraw hmode
    · rw [hdraws.cursor_eq hredraw (not_strays_of_browses hm h.mode_eq)]
      exact hdraws.fits hredraw h.fits

theorem Browsable.run {s : ListState} {tasks : List TaskRecord} (h : s.Browsable tasks)
    {ms : List Message} (hms : ∀ m ∈ ms, m.Browses) : (s.run ms).Browsable tasks := by
  induction ms generalizing s with
  | nil => exact h
  | cons m ms ih =>
    obtain ⟨hm, hms⟩ := List.forall_mem_cons.mp hms
    exact ih (h.update hm) hms

/-! ## From page to page -/

/-- On the last page the next one is asked for in vain. -/
theorem Browsable.update_last {s : ListState} {tasks : List TaskRecord} (h : s.Browsable tasks)
    (hlast : s.cursor.totalPages ≤ s.cursor.page) : s.update (.pageChanged 1) = (s, []) := by
  rw [ListState.update, if_neg (by simp [h.disposed_eq])]
  simp only [react, PageCursor.step?_one_of_le hlast]

/-- On any other page it is shown at once. -/
theorem Browsable.update_next {s : ListState} {tasks : List TaskRecord} (h : s.Browsable tasks)
    (hmore : s.cursor.page < s.cursor.totalPages) :
    s.update (.pageChanged 1) = (s.setClientPage (s.cursor.page + 1), []) := by
  rw [ListState.update, if_neg (by simp [h.disposed_eq])]
  simp only [react, PageCursor.step?_one_of_lt hmore, goTo, h.mode_eq]

/-- On the last page nothing else is seen. -/
theorem Browsable.leafsThrough_of_last {s : ListState} {tasks : List TaskRecord}
    (h : s.Browsable tasks) (hlast : s.cursor.totalPages ≤ s.cursor.page)
    (pages : List (List TaskRow)) : s.LeafsThrough pages ↔ pages = [s.view.rows] := by
  have hsame := h.update_last hlast
  constructor
  · intro hpages
    cases hpages with
    | last => rfl
    | next hnext hne => exact absurd (congrArg Prod.fst (hnext.symm.trans hsame)) hne
  · rintro rfl
    exact .last hsame

theorem setClientPage_cursor {s : ListState} {page : Nat} (hpos : 1 ≤ page)
    (hle : page ≤ s.cursor.totalPages) :
    (s.setClientPage page).cursor = { s.cursor with page } :=
  PageCursor.clamped_eq_self (c := { s.cursor with page }) hpos hle

theorem setClientPage_ne {s : ListState} (hmore : s.cursor.page < s.cursor.totalPages) :
    s.setClientPage (s.cursor.page + 1) ≠ s := by
  intro heq
  have hcursor := setClientPage_cursor (Nat.le_add_left 1 s.cursor.page) hmore
  rw [heq] at hcursor
  exact Nat.succ_ne_self _ (congrArg PageCursor.page hcursor).symm

theorem Browsable.setClientPage {s : ListState} {tasks : List TaskRecord} (h : s.Browsable tasks)
    (hmore : s.cursor.page < s.cursor.totalPages) :
    (s.setClientPage (s.cursor.page + 1)).Browsable tasks := by
  have hafter := h.update (m := .pageChanged 1) trivial
  rwa [h.update_next hmore] at hafter

/-- On any other page that one is seen, and then what is seen from the next one on. -/
theorem Browsable.leafsThrough_of_more {s : ListState} {tasks : List TaskRecord}
    (h : s.Browsable tasks) (hmore : s.cursor.page < s.cursor.totalPages)
    (pages : List (List TaskRow)) :
    s.LeafsThrough pages ↔
      ∃ rest, (s.setClientPage (s.cursor.page + 1)).LeafsThrough rest ∧
        pages = s.view.rows :: rest := by
  have hnext := h.update_next hmore
  have hne := setClientPage_ne hmore
  constructor
  · intro hpages
    cases hpages with
    | last hlast => exact absurd (congrArg Prod.fst (hnext.symm.trans hlast)) hne
    | next hstep _ hrest =>
      obtain rfl := congrArg Prod.fst (hnext.symm.trans hstep)
      exact ⟨_, hrest, rfl⟩
  · rintro ⟨rest, hrest, rfl⟩
    exact .next hnext hne hrest

/-- The rows that such a list would show on a page. -/
def rowsAt (s : ListState) (page : Nat) : List TaskRow :=
  ({ s.cursor with page }.slice s.tasks).map (TaskRow.of s.selection)

theorem Browsable.rows_eq {s : ListState} {tasks : List TaskRecord} (h : s.Browsable tasks) :
    s.view.rows = s.rowsAt s.cursor.page :=
  h.fits

/-- What there is on each page does not depend on the one that is shown. -/
theorem rowsAt_setClientPage (s : ListState) (page : Nat) :
    (s.setClientPage page).rowsAt = s.rowsAt :=
  rfl

/-- The pages that are seen are those from here to the last one. -/
theorem Browsable.leafsThrough_iff {s : ListState} {tasks : List TaskRecord}
    (h : s.Browsable tasks) {left : Nat} (hleft : s.cursor.page + left = s.cursor.totalPages)
    (pages : List (List TaskRow)) :
    s.LeafsThrough pages ↔ pages = (List.range' s.cursor.page (left + 1)).map s.rowsAt := by
  induction left generalizing s pages with
  | zero =>
    rw [h.leafsThrough_of_last hleft.ge, List.range'_one, List.map_singleton, h.rows_eq]
  | succ left ih =>
    have hmore : s.cursor.page < s.cursor.totalPages := by omega
    have hcursor := setClientPage_cursor (Nat.le_add_left 1 s.cursor.page) hmore
    have hrest : (s.setClientPage (s.cursor.page + 1)).cursor.page + left =
        (s.setClientPage (s.cursor.page + 1)).cursor.totalPages := by
      rw [hcursor]
      change s.cursor.page + 1 + left = s.cursor.totalPages
      omega
    have hih := ih (h.setClientPage hmore) hrest
    rw [hcursor, rowsAt_setClientPage] at hih
    rw [h.leafsThrough_of_more hmore, List.range'_succ, List.map_cons, h.rows_eq]
    constructor
    · rintro ⟨rest, hseen, rfl⟩
      rw [(hih rest).mp hseen]
    · rintro rfl
      exact ⟨_, (hih _).mpr rfl, rfl⟩

/-- From the first page on they are all pages, and together they are all rows. -/
theorem Browsable.exists_pages {s : ListState} {tasks : List TaskRecord} (h : s.Browsable tasks)
    (hsize : 1 ≤ s.cursor.pageSize) (hmany : tasks.length ≤ s.cursor.pageSize * PageCursor.maxPage)
    (hfirst : s.cursor.page = 1) :
    ∃ pages, (∀ shown, s.LeafsThrough shown ↔ shown = pages) ∧
      pages.flatten = tasks.map (TaskRow.of s.selection) := by
  obtain ⟨left, hleft⟩ := Nat.exists_eq_add_of_le s.cursor.one_le_totalPages
  have hcount : s.cursor.page + left = s.cursor.totalPages := by omega
  have hpages := h.leafsThrough_iff hcount
  rw [hfirst, Nat.add_comm, ← hleft] at hpages
  refine ⟨_, hpages, ?_⟩
  have htotal : s.cursor.total = tasks.length := h.shows.total_eq
  calc
    ((List.range' 1 s.cursor.totalPages).map s.rowsAt).flatten
      = (List.range' 1 s.cursor.totalPages).flatMap s.rowsAt := rfl
    _ = ((List.range' 1 s.cursor.totalPages).flatMap
          fun page => { s.cursor with page }.slice tasks).map (TaskRow.of s.selection) := by
        rw [List.map_flatMap, ← h.shows.tasks_eq]
        rfl
    _ = tasks.map (TaskRow.of s.selection) := by
        rw [PageCursor.flatMap_slice_totalPages hsize htotal hmany]

theorem Reached.run {s : ListState} (h : s.Reached) (ms : List Message) : (s.run ms).Reached :=
  run_induction (fun _ m ht => ht.update m) h ms

/-- A task with that identifier, which waits. -/
private def waitingTask (id : TaskId) : TaskRecord :=
  { id, kind := .video, status := .pending, progress := 0, payload := .null, result := none,
    error := none, createdAt := 0 }

/-- The slices of a list partition it, as long as its pages can be counted: those of the pages that
there are put it together again; each but the last is full, the last one has something on it unless
the list is empty, and behind it there is nothing. With pages and page sizes of 32 bits no bound of
a slice comes near 64 bits, and numbers that stop at a limit give the same slices.

So whoever has loaded the whole list in a view that is paged by the client, and then turns from the
first page to the next one until that is ignored, has seen every task once and in order. In between
the view may have taken any messages but a list, another filter and its end. -/
theorem pages_partition :
    (∀ {α : Type} (rows : List α) (size : Nat), 1 ≤ size →
      rows.length ≤ size * PageCursor.maxPage →
      let onPage page := { page, pageSize := size, total := rows.length : PageCursor }.slice rows
      let last := { page := 1, pageSize := size, total := rows.length : PageCursor }.totalPages
      (List.range' 1 last).flatMap onPage = rows ∧
        (∀ page, 1 ≤ page → page < last → (onPage page).length = size) ∧
        (onPage last).length ≤ size ∧ (rows ≠ [] → 1 ≤ (onPage last).length) ∧
        ∀ page, last < page → onPage page = []) ∧
      (∀ c : PageCursor, c.page < 2 ^ 32 → c.pageSize < 2 ^ 32 →
        (c.page - 1) * c.pageSize + c.pageSize < 2 ^ 64 ∧
          ∀ {α : Type} (rows : List α) (limit : Nat), rows.length ≤ limit →
            c.sliceWithin limit rows = c.slice rows) ∧
      ∀ (s : ListState) (tasks : List TaskRecord) (ms : List Message), s.Reached →
        s.mode = .client → s.disposed = false → (∀ m ∈ ms, m.Browses) →
        let t := (s.update (.pageLoaded s.query (.full tasks))).1.run ms
        tasks.length ≤ t.cursor.pageSize * PageCursor.maxPage → t.cursor.page = 1 →
          ∃ pages, (∀ shown, t.LeafsThrough shown ↔ shown = pages) ∧
            pages.flatten = tasks.map (TaskRow.of t.selection) := by
  refine ⟨fun rows size hsize hmany => ?_, fun c hpage hsize => ?_, ?_⟩
  · intro onPage last
    let c : PageCursor := { page := 1, pageSize := size, total := rows.length }
    have htotal : c.total = rows.length := rfl
    exact ⟨PageCursor.flatMap_slice_totalPages (c := c) hsize htotal hmany,
      fun page hpos hlt => PageCursor.length_slice_of_lt (c := c) hsize htotal hpos hlt,
      PageCursor.length_slice_le _ rows,
      PageCursor.one_le_length_slice (c := c) hsize htotal c.one_le_totalPages le_rfl,
      fun page hlt => PageCursor.slice_eq_nil_of_lt (c := c) hsize htotal hmany hlt⟩
  · exact ⟨PageCursor.bounds_lt hpage hsize, fun rows limit h => c.sliceWithin_eq h⟩
  · intro s tasks ms hs hmode hopen hms t hmany hfirst
    have hloaded : (s.update (.pageLoaded s.query (.full tasks))).1.Reached := hs.update _
    have hpaged : t.Paged := (hloaded.run ms).paged
    have hbrowsable : t.Browsable tasks := (browsable_full hmode hopen tasks).run hms
    exact hbrowsable.exists_pages hpaged.one_le_pageSize hmany hfirst

/-- Three tasks on pages of two. The second page is visited and left again before all pages are
seen, and one task is ticked there. -/
theorem pages_partition_of_three :
    let onPage page := PageCursor.slice ⟨page, 2, 3⟩ ["a", "b", "c"]
    let far : PageCursor := ⟨2 ^ 32 - 1, 2 ^ 32 - 1, 3⟩
    let tasks := ["a", "b", "c"].map waitingTask
    let s := ofMode .client 2
    let t := (s.update (.pageLoaded s.query (.full tasks))).1.run
      [.pageChanged 1, .selectionToggled "c", .pageChanged (-1)]
    (List.range' 1 2).flatMap onPage = ["a", "b", "c"] ∧ (onPage 1).length = 2 ∧
      onPage 3 = [] ∧
      far.sliceWithin (2 ^ 64 - 1) ["a", "b", "c"] = far.slice ["a", "b", "c"] ∧
      ∃ pages, t.LeafsThrough pages ∧
        pages.flatten.map (fun row => (row.id, row.selected)) =
          [("a", false), ("b", false), ("c", true)] := by
  intro onPage far tasks s t
  obtain ⟨hslices, hwithin, hpages⟩ := pages_partition
  obtain ⟨htogether, hfull, -, -, hbehind⟩ := hslices ["a", "b", "c"] 2 (by decide) (by decide)
  have hbrowses : ∀ m ∈ [.pageChanged 1, .selectionToggled "c", .pageChanged (-1)],
      Message.Browses m := by
    simp [Message.Browses]
  obtain ⟨pages, hseen, hflat⟩ := hpages s tasks _ (.opened (.ofMode .client 2)) rfl rfl hbrowses
    (by decide) (by decide)
  refine ⟨htogether, hfull 1 le_rfl (by decide), hbehind 3 (by decide),
    (hwithin far (by decide) (by decide)).2 _ _ (by decide), pages, (hseen pages).mpr rfl, ?_⟩
  rw [hflat]
  decide

end ListState

end TaskDesk
