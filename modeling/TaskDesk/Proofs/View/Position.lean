import Mathlib.Data.List.Induction
import TaskDesk.Proofs.View.Drawing

/-!
# Rows and position of a list paged by the client

A list paged by the client shows a slice of the tasks that it has fetched. A new filter moves the
position to the first page at once, but leaves the rows to the fetch that it asks for. So from a
page other than the first one the rows stay behind, until a page is loaded, turned or resized.
At any other time the rows are those of the position.

## Main definitions

- `ListState.Fits` — the rows are those of a position
- `ListState.LeftAt` — a run that has left the rows behind at some page

## Main results

- `ListState.rows_fit_unless_left` — the rows are those of the position or of the page where they
  were left
- `ListState.rows_left_by_filter` — they can be left behind
-/

namespace TaskDesk.ListState

/-- The rows are those that the fetched tasks have at a position. -/
def Fits (s : ListState) (c : PageCursor) : Prop :=
  s.view.rows = (ShownPage.of (c.slice s.tasks) s.selection c).rows

/-- In a run the rows were left behind at a page: a filter changed there, and since then nothing
has made the page anew. -/
inductive LeftAt (s : ListState) : List Message → Nat → Prop
  | stray {ms : List Message} {m : Message} (hopen : .disposed ∉ ms) (hm : (s.run ms).Strays m)
      (hpage : (s.run ms).cursor.page ≠ 1) : LeftAt s (ms ++ [m]) (s.run ms).cursor.page
  | stay {ms : List Message} {m : Message} {page : Nat} (h : LeftAt s ms page)
      (hm : .disposed ∈ ms ∨ ¬ (s.run ms).Redraws m) : LeftAt s (ms ++ [m]) page

theorem LeftAt.of_concat {s : ListState} {ms : List Message} {m : Message} {page : Nat}
    (h : s.LeftAt (ms ++ [m]) page) :
    (.disposed ∉ ms ∧ (s.run ms).Strays m ∧ (s.run ms).cursor.page ≠ 1 ∧
        page = (s.run ms).cursor.page) ∨
      (s.LeftAt ms page ∧ (.disposed ∈ ms ∨ ¬ (s.run ms).Redraws m)) := by
  generalize hms : ms ++ [m] = all at h
  cases h with
  | stray hopen hm hpage =>
    obtain ⟨rfl, hlast⟩ := List.append_inj' hms rfl
    obtain rfl := List.singleton_inj.mp hlast
    exact .inl ⟨hopen, hm, hpage, rfl⟩
  | stay h hm =>
    obtain ⟨rfl, hlast⟩ := List.append_inj' hms rfl
    obtain rfl := List.singleton_inj.mp hlast
    exact .inr ⟨h, hm⟩

/-! ## One message -/

/-- Only the page, the tasks and the selection matter for it. -/
theorem Fits.of_eq {s t : ListState} {c : PageCursor} (h : s.Fits c) (hpage : t.page = s.page)
    (htasks : t.tasks = s.tasks) (hselection : t.selection = s.selection) : t.Fits c := by
  unfold Fits view at h ⊢
  rw [hpage, htasks, hselection]
  exact h

/-- Marked anew, the rows are still those of the same position. -/
theorem Fits.remark {s t : ListState} {c : PageCursor} (h : s.Fits c)
    (hpage : t.page = s.page.remark t.selection) (htasks : t.tasks = s.tasks) : t.Fits c := by
  have hrows : s.page.rows = (c.slice s.tasks).map (TaskRow.of s.selection) := h
  have hmark (task : TaskRecord) :
      { TaskRow.of s.selection task with
        selected := t.selection.has (TaskRow.of s.selection task).id } =
          TaskRow.of t.selection task :=
    rfl
  change t.page.rows = (c.slice t.tasks).map (TaskRow.of t.selection)
  rw [hpage, htasks, ShownPage.remark, hrows, List.map_map]
  exact List.map_congr_left fun task _ => hmark task

/-- A message that does not make the page anew leaves the rows where they are. -/
theorem Draws.fits {s t : ListState} {m : Message} (h : s.Draws m t) (hm : ¬ s.Redraws m)
    {c : PageCursor} (hs : s.Fits c) : t.Fits c := by
  cases h with
  | kept _ _ hpage hselection htasks => exact hs.of_eq hpage htasks hselection
  | remarked _ _ hpage htasks => exact hs.remark hpage htasks
  | strayed _ hpage hselection htasks => exact hs.of_eq hpage htasks hselection
  | rebuilt hredraw => exact absurd hredraw hm

/-- A page that is made anew is that of the position. -/
theorem Draws.fits_of_redraws {s t : ListState} {m : Message} (h : s.Draws m t)
    (hm : s.Redraws m) (hmode : t.mode = .client) : t.Fits t.cursor := by
  cases h with
  | kept hredraw | remarked hredraw => exact absurd hm hredraw
  | strayed hstray => exact absurd hstray hm.not_strays
  | rebuilt _ hpage =>
    have hvisible : t.visibleTasks = t.cursor.slice t.tasks := by rw [visibleTasks, hmode]
    unfold Fits view
    rw [hpage, hvisible]

theorem Draws.cursor_eq {s t : ListState} {m : Message} (h : s.Draws m t) (hm : ¬ s.Redraws m)
    (hstray : ¬ s.Strays m) : t.cursor = s.cursor := by
  cases h with
  | kept _ _ _ _ _ hcursor | remarked _ _ _ _ hcursor => exact hcursor
  | strayed h => exact absurd h hstray
  | rebuilt h => exact absurd h hm

theorem Draws.cursor_eq_of_strays {s t : ListState} {m : Message} (h : s.Draws m t)
    (hstray : s.Strays m) (hmode : s.mode = .client) :
    t.cursor = { s.cursor with page := 1 } := by
  cases h with
  | kept _ hnot | remarked _ hnot => exact absurd hstray hnot
  | strayed _ _ _ _ hcursor hsize => rw [hcursor, hsize hmode]
  | rebuilt hredraw => exact absurd hstray hredraw.not_strays

/-! ## Whole runs -/

/-- After a run the rows are those of the position, or of the page where they were left behind. -/
structure Placed (s : ListState) (ms : List Message) : Prop where
  left {page : Nat} (h : s.LeftAt ms page) :
    (s.run ms).cursor.page = 1 ∧ (s.run ms).Fits { (s.run ms).cursor with page }
  fits (h : ∀ page, ¬ s.LeftAt ms page) : (s.run ms).Fits (s.run ms).cursor

theorem Opened.placed_nil {s : ListState} (h : s.Opened) : s.Placed [] where
  left {page} hleft := by
    generalize hms : ([] : List Message) = all at hleft
    cases hleft <;> simp at hms
  fits _ := by
    obtain ⟨mode, query, rfl⟩ := h.exists_ofQuery
    change [] = (PageCursor.slice _ []).map _
    simp [PageCursor.slice]

/-- A closed view stays as it is. -/
theorem Placed.concat_of_disposed {s : ListState} {ms : List Message} (h : s.Placed ms)
    {m : Message} (hs : (s.run ms).disposed = true) (hm : .disposed ∈ ms) :
    s.Placed (ms ++ [m]) where
  left {page} hleft := by
    rw [run_concat, update_of_disposed hs]
    rcases hleft.of_concat with ⟨hopen, -⟩ | ⟨hleft, -⟩
    · exact absurd hm hopen
    · exact h.left hleft
  fits hnone := by
    rw [run_concat, update_of_disposed hs]
    exact h.fits fun page hleft => hnone page (.stay hleft (.inl hm))

theorem Placed.concat {s : ListState} {ms : List Message} (h : s.Placed ms) {m : Message}
    (hdraws : (s.run ms).Draws m ((s.run ms).update m).1) (hopen : .disposed ∉ ms)
    (hmode : (s.run ms).mode = .client) : s.Placed (ms ++ [m]) where
  left {page} hleft := by
    rw [run_concat]
    rcases hleft.of_concat with ⟨-, hstray, hpage, rfl⟩ | ⟨hleft, hm⟩
    -- The filter has just changed; before, the rows were those of the position.
    · have hbefore := h.fits fun page hleft => hpage (h.left hleft).1
      rw [hdraws.cursor_eq_of_strays hstray hmode]
      exact ⟨rfl, hdraws.fits (fun hredraw => hredraw.not_strays hstray) hbefore⟩
    · have hm := hm.resolve_left hopen
      obtain ⟨hpage, hbefore⟩ := h.left hleft
      have hafter := hdraws.fits hm hbefore
      by_cases hstray : (s.run ms).Strays m
      · rw [hdraws.cursor_eq_of_strays hstray hmode]
        exact ⟨rfl, hafter⟩
      · rw [hdraws.cursor_eq hm hstray]
        exact ⟨hpage, hafter⟩
  fits hnone := by
    rw [run_concat]
    by_cases hm : (s.run ms).Redraws m
    · exact hdraws.fits_of_redraws hm ((mode_update _ _).trans hmode)
    · have hbefore := h.fits fun page hleft => hnone page (.stay hleft (.inr hm))
      have hafter := hdraws.fits hm hbefore
      by_cases hstray : (s.run ms).Strays m
      -- On the first page a new filter leaves nothing behind.
      · have hpage : (s.run ms).cursor.page = 1 :=
          not_not.mp fun hpage => hnone _ (.stray hopen hstray hpage)
        rw [hdraws.cursor_eq_of_strays hstray hmode, ← hpage]
        exact hafter
      · rw [hdraws.cursor_eq hm hstray]
        exact hafter

theorem Opened.placed {s : ListState} (hs : s.Opened) (hmode : s.mode = .client)
    (ms : List Message) : s.Placed ms := by
  induction ms using List.reverseRecOn with
  | nil => exact hs.placed_nil
  | append_singleton ms m ih =>
    by_cases hm : .disposed ∈ ms
    · exact ih.concat_of_disposed ((hs.disposed_run_iff ms).mpr hm) hm
    · have hopen : (s.run ms).disposed = false := by
        simpa using mt (hs.disposed_run_iff ms).mp hm
      exact ih.concat (draws_update hopen m) hm ((mode_run s ms).trans hmode)

/-- A task with that identifier, which has failed. -/
private def failedTask (id : TaskId) : TaskRecord :=
  { id, kind := .video, status := .failed, progress := 0, payload := .null, result := none,
    error := none, createdAt := 0 }

/-- The second of two pages with one row each, and then a new filter, whose fetch fails. -/
private def filteredOnSecondPage : List Message :=
  [.pageLoaded { size := 1 } (.full [failedTask "a", failedTask "b"]), .pageChanged 1,
    .statusFilterChanged (some .failed), .loadFailed "down"]

/-- In a list paged by the client the rows are always those of the position, unless a filter has
changed on a page other than the first one and nothing has made the page anew since. Then the
rows are still those of the page where the filter changed, while the position is the first page.
The next page that is loaded, turned or resized brings them together again. -/
theorem rows_fit_unless_left {s : ListState} (hs : s.Opened) (hmode : s.mode = .client)
    (ms : List Message) :
    let t := s.run ms
    ((∀ page, ¬ s.LeftAt ms page) → t.Fits t.cursor) ∧
      (∀ page, s.LeftAt ms page → t.cursor.page = 1 ∧ t.Fits { t.cursor with page }) ∧
      (.disposed ∉ ms → ∀ m, t.Redraws m → (t.update m).1.Fits (t.update m).1.cursor) := by
  intro t
  have hplaced := hs.placed hmode ms
  refine ⟨hplaced.fits, fun page hleft => hplaced.left hleft, fun hm m hredraw => ?_⟩
  have hopen : t.disposed = false := by simpa using mt (hs.disposed_run_iff ms).mp hm
  have hclient : (t.update m).1.mode = .client :=
    (mode_update _ _).trans ((mode_run s ms).trans hmode)
  exact (draws_update hopen m).fits_of_redraws hredraw hclient

/-- After a filter has changed on the second page and its fetch has failed, the rows are still
those of the second page, and the position is the first one. -/
theorem rows_fit_unless_left_after_failure :
    let t := (ofMode .client 1).run filteredOnSecondPage
    t.cursor.page = 1 ∧ t.Fits { t.cursor with page := 2 } := by
  have hleft : (ofMode .client 1).LeftAt filteredOnSecondPage 2 := by
    have hstray : (ofMode .client 1).LeftAt (filteredOnSecondPage.take 2 ++ [_]) 2 :=
      .stray (m := .statusFilterChanged (some .failed)) (by simp [filteredOnSecondPage]) trivial
        (by decide)
    exact hstray.stay (.inr id)
  exact (rows_fit_unless_left (.ofMode .client 1) rfl filteredOnSecondPage).2.1 2 hleft

/-- A new filter leaves rows behind that are not those of the position, although every fetch has
brought the whole list. -/
theorem rows_left_by_filter :
    ¬ ∀ (s : ListState) (ms : List Message), s.Opened → s.mode = .client →
        (∀ query snapshot, .pageLoaded query snapshot ∈ ms →
          snapshot.total = snapshot.tasks.length) →
        (s.run ms).Fits (s.run ms).cursor := by
  intro hfits
  have hfull : ∀ query snapshot, .pageLoaded query snapshot ∈ filteredOnSecondPage →
      snapshot.total = snapshot.tasks.length := by
    intro query snapshot hmem
    simp only [filteredOnSecondPage, List.mem_cons, List.not_mem_nil, or_false,
      reduceCtorEq] at hmem
    obtain ⟨-, rfl⟩ := Message.pageLoaded.inj hmem
    rfl
  have hrows := hfits (ofMode .client 1) filteredOnSecondPage (.ofMode .client 1) rfl hfull
  have hids := congrArg (List.map TaskRow.id) hrows
  revert hids
  decide

end TaskDesk.ListState
