import TaskDesk.Proofs.View.Run

/-!
# What a message does to the page that is shown

The page that a view shows is kept, not made anew at every look. `ListState.Draws` lists how a
message can leave it: as it was, with other ticks, made anew, or as it was although the position
has moved on. Only in the last case the rows and the position can come apart.

## Main definitions

- `ListState.Redraws` — messages that make the page anew
- `ListState.Strays` — messages that move the position and leave the rows
- `ListState.Draws` — the four ways to leave the page

## Main results

- `ListState.draws_update` — every message leaves it in one of them
-/

namespace TaskDesk.ListState

/-- The message makes the page anew: it brings the page that the view asks for, or it turns or
resizes the pages of a list paged by the client. -/
def Redraws (s : ListState) : Message → Prop
  | .pageLoaded query _ => query = s.query
  | .pageChanged delta => s.mode = .client ∧ (s.cursor.step? delta).isSome
  | .pageSizeChanged size => s.mode = .client ∧ ¬ (size = 0 ∨ size = s.cursor.pageSize)
  | _ => False

/-- The message goes back to the first page and leaves the rows to the fetch that it asks for: a
new filter, or a new page size of a list paged by the server. -/
def Strays (s : ListState) : Message → Prop
  | .statusFilterChanged _ | .kindFilterChanged _ => True
  | .pageSizeChanged size => s.mode = .server ∧ ¬ (size = 0 ∨ size = s.cursor.pageSize)
  | _ => False

/-- What a message makes of the page that is shown. -/
inductive Draws (s : ListState) : Message → ListState → Prop
  /-- The page stays, and so does all that it was made from. -/
  | kept {m : Message} {t : ListState} (hredraw : ¬ s.Redraws m) (hstray : ¬ s.Strays m)
      (hpage : t.page = s.page) (hselection : t.selection = s.selection)
      (htasks : t.tasks = s.tasks) (hcursor : t.cursor = s.cursor) : Draws s m t
  /-- The rows are marked anew. -/
  | remarked {m : Message} {t : ListState} (hredraw : ¬ s.Redraws m) (hstray : ¬ s.Strays m)
      (hpage : t.page = s.page.remark t.selection) (htasks : t.tasks = s.tasks)
      (hcursor : t.cursor = s.cursor) : Draws s m t
  /-- The page stays, but the position is the first one. -/
  | strayed {m : Message} {t : ListState} {pageSize : Nat} (hstray : s.Strays m)
      (hpage : t.page = s.page) (hselection : t.selection = s.selection)
      (htasks : t.tasks = s.tasks) (hcursor : t.cursor = { s.cursor with page := 1, pageSize })
      (hsize : s.mode = .client → pageSize = s.cursor.pageSize) : Draws s m t
  /-- The page is made anew. -/
  | rebuilt {m : Message} {t : ListState} (hredraw : s.Redraws m)
      (hpage : t.page = ShownPage.of t.visibleTasks t.selection t.cursor) : Draws s m t

theorem Redraws.not_strays {s : ListState} {m : Message} (h : s.Redraws m) : ¬ s.Strays m := by
  cases m with
  | pageSizeChanged size => exact fun hstray => by cases h.1.symm.trans hstray.1
  | pageLoaded | pageChanged => exact id
  | _ => cases h

theorem load_page (s : ListState) (snapshot : Snapshot) :
    (s.load snapshot).2.page =
      ShownPage.of (s.load snapshot).2.visibleTasks (s.load snapshot).2.selection
        (s.load snapshot).2.cursor := by
  simp only [load]
  split <;> rfl

@[simp] theorem load_selection (s : ListState) (snapshot : Snapshot) :
    (s.load snapshot).2.selection = s.selection := by
  simp only [load]
  split <;> rfl

theorem draws_receive (s : ListState) (query : ListQuery) (snapshot : Snapshot) :
    s.Draws (.pageLoaded query snapshot) (s.receive query snapshot).1 := by
  unfold receive
  split
  · next hq =>
    simp only
    split
    · rw [fetch_eq]
      exact .rebuilt hq (s.load_page snapshot)
    · rw [settlePolling_eq]
      exact .rebuilt hq (s.load_page snapshot)
  · next hq => exact .kept hq id rfl rfl rfl rfl

theorem draws_pageChanged (s : ListState) (delta : Int) :
    s.Draws (.pageChanged delta) (s.react (.pageChanged delta)).1 := by
  simp only [react]
  split
  · next page hstep =>
    unfold goTo
    split
    · next hmode =>
      rw [fetch_eq]
      refine .kept (fun hredraw => ?_) id rfl rfl rfl rfl
      cases hmode.symm.trans hredraw.1
    · next hmode => exact .rebuilt ⟨hmode, Option.isSome_of_eq_some hstep⟩ rfl
  · next hnone =>
    refine .kept (fun hredraw => ?_) id rfl rfl rfl rfl
    have hsome := hredraw.2
    rw [hnone] at hsome
    cases hsome

theorem draws_resize (s : ListState) (size : Nat) :
    s.Draws (.pageSizeChanged size) (s.resize size).1 := by
  unfold resize
  split
  · next hsame => exact .kept (fun h => h.2 hsame) (fun h => h.2 hsame) rfl rfl rfl rfl
  · next hnew =>
    cases hmode : s.mode with
    | server =>
      simp only [setPageSize, hmode, fetch_eq]
      refine .strayed ⟨hmode, hnew⟩ rfl rfl rfl rfl fun hclient => ?_
      cases hmode.symm.trans hclient
    | client =>
      simp only [setPageSize, hmode]
      exact .rebuilt ⟨hmode, hnew⟩ rfl

theorem draws_filtered (s : ListState) (m : Message) (hm : s.Strays m) (query : ListQuery) :
    s.Draws m ({ s with query }.toFirstPage.fetch).1 := by
  rw [fetch_eq]
  exact .strayed hm rfl rfl rfl rfl fun _ => rfl

/-- A message leaves the page in one of four ways. -/
theorem draws_react (s : ListState) (m : Message) : s.Draws m (s.react m).1 := by
  cases m with
  | pageLoaded query snapshot => exact s.draws_receive query snapshot
  | pageChanged delta => exact s.draws_pageChanged delta
  | pageSizeChanged size => exact s.draws_resize size
  | statusFilterChanged status => exact s.draws_filtered (.statusFilterChanged status) trivial _
  | kindFilterChanged kind => exact s.draws_filtered (.kindFilterChanged kind) trivial _
  | selectionToggled task =>
    simp only [react, toggleTask]
    split
    · exact .remarked id id rfl rfl rfl
    · exact .kept id id rfl rfl rfl rfl
  | selectAllToggled | selectionCleared => exact .remarked id id rfl rfl rfl
  | batchDeleted | tasksCleared =>
    simp only [react, announce, fetch_eq]
    exact .remarked id id rfl rfl rfl
  | refreshRequested =>
    rw [react, fetch_eq]
    exact .kept id id rfl rfl rfl rfl
  | loadFailed reason =>
    rw [react, setLoading_eq]
    exact .kept id id rfl rfl rfl rfl
  | authInvalid | disposed =>
    rw [react, stopPolling_eq]
    exact .kept id id rfl rfl rfl rfl
  | batchDeleteRequested | clearTasksRequested | actionFailed =>
    exact .kept id id rfl rfl rfl rfl

theorem draws_update {s : ListState} (h : s.disposed = false) (m : Message) :
    s.Draws m (s.update m).1 := by
  have hopen : s.update m = s.react m := by simp [update, h]
  rw [hopen]
  exact s.draws_react m

end TaskDesk.ListState
