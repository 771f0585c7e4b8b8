import TaskDesk.Proofs.View.Announcing
import TaskDesk.Proofs.View.Loading
import TaskDesk.Proofs.View.Reply

/-!
# The query and the position

Where a view is in its list is kept twice: the query says which page is asked for, and the cursor
which one is shown. In a list paged by the server the cursor follows the replies; in one paged by
the client it moves alone, and the query stays on the first page. `ListState.Steers` lists how a
message moves the two.

## Main definitions

- `Message.Pages` — messages that turn or resize the pages
- `ListState.Steers` — the seven ways to move the query and the cursor
- `ListState.Paged` — how the two belong together
- `ListState.InRange` — the cursor is on a page that there is

## Main results

- `ListState.steers_update` — every message moves the two in one of these ways
- `ListState.paging_kept` — how they belong together after every run
-/

namespace TaskDesk

namespace PageCursor

theorem isSome_step?_iff (c : PageCursor) (delta : Int) :
    (c.step? delta).isSome = true ↔ 1 ≤ c.page + delta ∧ c.page + delta ≤ c.totalPages := by
  rw [step?_eq]
  split
  · next h => exact iff_of_true rfl h
  · next h => exact iff_of_false (by simp) h

theorem one_le_of_step? {c : PageCursor} {delta : Int} {page : Nat}
    (h : c.step? delta = some page) : 1 ≤ page := by
  rw [step?_eq] at h
  split at h
  · next hrange =>
    obtain rfl := Option.some.inj h
    omega
  · cases h

theorem hasNext_iff (c : PageCursor) : c.hasNext = true ↔ (c.step? 1).isSome = true := by
  rw [isSome_step?_iff, hasNext, decide_eq_true_iff]
  omega

/-- A page too far would have one before it that there is not. -/
theorem hasPrevious_iff {c : PageCursor} (h : c.page ≤ c.totalPages) :
    c.hasPrevious = true ↔ (c.step? (-1)).isSome = true := by
  rw [isSome_step?_iff, hasPrevious, decide_eq_true_iff]
  omega

theorem one_le_clamped_page (c : PageCursor) : 1 ≤ c.clamped.page :=
  Nat.le_max_left _ _

theorem clamped_page_le (c : PageCursor) : c.clamped.page ≤ c.clamped.totalPages := by
  have hone := c.one_le_totalPages
  rw [totalPages_clamped]
  change max 1 (min c.page c.totalPages) ≤ c.totalPages
  omega

end PageCursor

/-- How many tasks there are altogether, as a reply says. -/
def Message.total? : Message → Option Nat
  | .pageLoaded _ snapshot => some snapshot.total
  | _ => none

/-- The message turns the pages or resizes them. -/
def Message.Pages : Message → Prop
  | .pageChanged _ | .pageSizeChanged _ => True
  | _ => False

namespace ListState

/-- How a message moves the page and the size of the query, and the cursor. -/
inductive Steers (s : ListState) : Message → ListState → Prop
  /-- Nothing moves. -/
  | kept {m : Message} {t : ListState} (hm : ¬ s.IsReply m) (hpage : t.query.page = s.query.page)
      (hsize : t.query.size = s.query.size) (hcursor : t.cursor = s.cursor) : Steers s m t
  /-- The server is asked for another page; the cursor waits for the reply. -/
  | asked {m : Message} {t : ListState} {page : Nat} (hm : ¬ s.IsReply m) (hmode : s.mode = .server)
      (hone : 1 ≤ page) (hquery : t.query = { s.query with page }) (hcursor : t.cursor = s.cursor) :
      Steers s m t
  /-- Another slice of the list is shown. -/
  | turned {m : Message} {t : ListState} {page pageSize : Nat} (hm : ¬ s.IsReply m)
      (hmode : s.mode = .client) (hsize : pageSize = s.cursor.pageSize ∨ 1 ≤ pageSize)
      (hquery : t.query = s.query)
      (hcursor : t.cursor = { s.cursor with page, pageSize }.clamped) : Steers s m t
  /-- A new filter starts from the first page. -/
  | restarted {m : Message} {t : ListState} (hm : ¬ s.IsReply m) (hpage : t.query.page = 1)
      (hsize : t.query.size = s.query.size) (hcursor : t.cursor = { s.cursor with page := 1 }) :
      Steers s m t
  /-- So does a new page size, which the server is told. -/
  | resized {m : Message} {t : ListState} {size : Nat} (hm : ¬ s.IsReply m)
      (hmode : s.mode = .server) (hone : 1 ≤ size)
      (hquery : t.query = { s.query with size, page := 1 })
      (hcursor : t.cursor = { s.cursor with pageSize := size, page := 1 }) : Steers s m t
  /-- A page of the server came; a page past the end is pulled back. -/
  | arrived {t : ListState} {snapshot : Snapshot} (hmode : s.mode = .server)
      (hcursor : t.cursor = (PageCursor.of s.query.page s.query.size snapshot.total).clamped)
      (hquery : t.query = { s.query with page := t.cursor.page }) :
      Steers s (.pageLoaded s.query snapshot) t
  /-- The whole list came. -/
  | refilled {t : ListState} {snapshot : Snapshot} (hmode : s.mode = .client)
      (hcursor : t.cursor = { s.cursor with total := snapshot.total }.clamped)
      (hquery : t.query = s.query) : Steers s (.pageLoaded s.query snapshot) t

/-! ## One message -/

theorem not_isReply {s : ListState} {m : Message} (h : m.total? = none) : ¬ s.IsReply m := by
  rintro ⟨snapshot, rfl⟩
  cases h

theorem load_of_server {s : ListState} (h : s.mode = .server) (snapshot : Snapshot) :
    (s.load snapshot).2.cursor =
        (PageCursor.of s.query.page s.query.size snapshot.total).clamped ∧
      (s.load snapshot).2.query = { s.query with page := (s.load snapshot).2.cursor.page } := by
  simp only [load, h]
  exact ⟨rfl, rfl⟩

theorem load_of_client {s : ListState} (h : s.mode = .client) (snapshot : Snapshot) :
    (s.load snapshot).2.cursor = { s.cursor with total := snapshot.total }.clamped ∧
      (s.load snapshot).2.query = s.query := by
  simp only [load, h]
  exact ⟨rfl, rfl⟩

theorem steers_load (s : ListState) (snapshot : Snapshot) {t : ListState}
    (hcursor : t.cursor = (s.load snapshot).2.cursor) (hquery : t.query = (s.load snapshot).2.query) :
    s.Steers (.pageLoaded s.query snapshot) t := by
  cases hmode : s.mode with
  | server =>
    obtain ⟨hc, hq⟩ := load_of_server hmode snapshot
    exact .arrived hmode (hcursor.trans hc) (hquery.trans (hcursor ▸ hq))
  | client =>
    obtain ⟨hc, hq⟩ := load_of_client hmode snapshot
    exact .refilled hmode (hcursor.trans hc) (hquery.trans hq)

theorem steers_receive (s : ListState) (query : ListQuery) (snapshot : Snapshot) :
    s.Steers (.pageLoaded query snapshot) (s.receive query snapshot).1 := by
  unfold receive
  split
  · next hq =>
    subst hq
    simp only
    split
    · rw [fetch_eq]
      exact s.steers_load snapshot rfl rfl
    · rw [settlePolling_eq]
      exact s.steers_load snapshot rfl rfl
  · next hq =>
    refine .kept ?_ rfl rfl rfl
    rintro ⟨other, h⟩
    exact hq (Message.pageLoaded.inj h).1

theorem steers_goTo {s : ListState} {m : Message} (hm : ¬ s.IsReply m) {page : Nat}
    (hpage : 1 ≤ page) : s.Steers m (s.goTo page).1 := by
  unfold goTo
  split
  · next hmode =>
    rw [fetch_eq]
    exact .asked hm hmode hpage rfl rfl
  · next hmode => exact .turned hm hmode (.inl rfl) rfl rfl

theorem steers_resize {s : ListState} {m : Message} (hm : ¬ s.IsReply m) (size : Nat) :
    s.Steers m (s.resize size).1 := by
  unfold resize
  split
  · exact .kept hm rfl rfl rfl
  · next hnew =>
    have hone : 1 ≤ size := by omega
    cases hmode : s.mode with
    | server =>
      simp only [setPageSize, hmode, fetch_eq]
      exact .resized hm hmode hone rfl rfl
    | client =>
      simp only [setPageSize, hmode]
      exact .turned hm hmode (.inr hone) rfl rfl

/-- Every message moves the query and the cursor in one of the seven ways. -/
theorem steers_react (s : ListState) (m : Message) : s.Steers m (s.react m).1 := by
  cases m with
  | pageLoaded query snapshot => exact s.steers_receive query snapshot
  | pageChanged delta =>
    have hm : ¬ s.IsReply (.pageChanged delta) := not_isReply rfl
    simp only [react]
    split
    · next page hstep => exact steers_goTo hm (PageCursor.one_le_of_step? hstep)
    · exact .kept hm rfl rfl rfl
  | pageSizeChanged size =>
    have hm : ¬ s.IsReply (.pageSizeChanged size) := not_isReply rfl
    exact steers_resize hm size
  | statusFilterChanged | kindFilterChanged =>
    rw [react, fetch_eq]
    exact .restarted (not_isReply rfl) rfl rfl rfl
  | refreshRequested =>
    rw [react, fetch_eq]
    exact .kept (not_isReply rfl) rfl rfl rfl
  | loadFailed reason =>
    rw [react, setLoading_eq]
    exact .kept (not_isReply rfl) rfl rfl rfl
  | selectionToggled task =>
    simp only [react, toggleTask]
    split <;> exact .kept (not_isReply rfl) rfl rfl rfl
  | batchDeleted | tasksCleared =>
    simp only [react, announce, fetch_eq]
    exact .kept (not_isReply rfl) rfl rfl rfl
  | authInvalid | disposed =>
    rw [react, stopPolling_eq]
    exact .kept (not_isReply rfl) rfl rfl rfl
  | selectAllToggled | selectionCleared => exact .kept (not_isReply rfl) rfl rfl rfl
  | batchDeleteRequested | clearTasksRequested | actionFailed => exact .kept (not_isReply rfl) rfl rfl rfl

theorem steers_update {s : ListState} (h : s.disposed = false) (m : Message) :
    s.Steers m (s.update m).1 := by
  have hopen : s.update m = s.react m := by simp [update, h]
  rw [hopen]
  exact s.steers_react m

/-- A list paged by the client turns and resizes its pages by itself. -/
theorem update_of_pages {s : ListState} (hmode : s.mode = .client) {m : Message} (hm : m.Pages) :
    (s.update m).2 = [] ∧ (s.update m).1.query = s.query := by
  cases hopen : s.disposed with
  | true =>
    rw [update_of_disposed hopen]
    exact ⟨rfl, rfl⟩
  | false =>
    have heq : s.update m = s.react m := by simp [update, hopen]
    rw [heq]
    cases m with
    | pageChanged delta =>
      simp only [react, goTo, hmode]
      split <;> exact ⟨rfl, rfl⟩
    | pageSizeChanged size =>
      simp only [react, resize, setPageSize, hmode]
      split <;> exact ⟨rfl, rfl⟩
    | _ => cases hm

/-! ## How the query and the cursor belong together -/

/-- Neither the query nor the cursor is at page zero or has pages without rows. The pages of the
cursor are those of the server; a list paged by the client is asked for as a whole. -/
structure Paged (s : ListState) : Prop where
  one_le_page : 1 ≤ s.query.page
  one_le_size : 1 ≤ s.query.size
  one_le_cursor : 1 ≤ s.cursor.page
  one_le_pageSize : 1 ≤ s.cursor.pageSize
  pageSize_eq : s.mode = .server → s.cursor.pageSize = s.query.size
  page_eq : s.mode = .client → s.query.page = 1

/-- The cursor is on a page that there is. -/
def InRange (s : ListState) : Prop :=
  s.cursor.page ≤ s.cursor.totalPages

theorem Paged.of_eq {s t : ListState} (h : s.Paged) (hmode : t.mode = s.mode)
    (hpage : t.query.page = s.query.page) (hsize : t.query.size = s.query.size)
    (hcursor : t.cursor = s.cursor) : t.Paged := by
  obtain ⟨h1, h2, h3, h4, h5, h6⟩ := h
  constructor <;> simp only [hmode, hpage, hsize, hcursor] <;> assumption

/-- With pages of the server the cursor need only agree with the query. -/
theorem Paged.of_server {s : ListState} (hmode : s.mode = .server) (hpage : 1 ≤ s.query.page)
    (hsize : 1 ≤ s.query.size) (hcursor : 1 ≤ s.cursor.page)
    (heq : s.cursor.pageSize = s.query.size) : s.Paged where
  one_le_page := hpage
  one_le_size := hsize
  one_le_cursor := hcursor
  one_le_pageSize := heq ▸ hsize
  pageSize_eq _ := heq
  page_eq hclient := nomatch hmode.symm.trans hclient

/-- With pages of the client the query stays at its first page. -/
theorem Paged.of_client {s : ListState} (hmode : s.mode = .client) (hpage : s.query.page = 1)
    (hsize : 1 ≤ s.query.size) (hcursor : 1 ≤ s.cursor.page) (hrows : 1 ≤ s.cursor.pageSize) :
    s.Paged where
  one_le_page := hpage.ge
  one_le_size := hsize
  one_le_cursor := hcursor
  one_le_pageSize := hrows
  pageSize_eq hserver := nomatch hmode.symm.trans hserver
  page_eq _ := hpage

theorem Steers.paged {s t : ListState} {m : Message} (h : s.Steers m t) (hs : s.Paged)
    (hmode : t.mode = s.mode) : t.Paged := by
  cases h with
  | kept _ hpage hsize hcursor => exact hs.of_eq hmode hpage hsize hcursor
  | asked _ hm hone hquery hcursor =>
    refine .of_server (hmode.trans hm) ?_ ?_ ?_ ?_ <;> simp only [hquery, hcursor]
    · exact hone
    · exact hs.one_le_size
    · exact hs.one_le_cursor
    · exact hs.pageSize_eq hm
  | turned _ hm hsize hquery hcursor =>
    refine .of_client (hmode.trans hm) ?_ ?_ ?_ ?_ <;> simp only [hquery, hcursor]
    · exact hs.page_eq hm
    · exact hs.one_le_size
    · exact PageCursor.one_le_clamped_page _
    · exact hsize.elim (fun heq => heq ▸ hs.one_le_pageSize) id
  | restarted _ hpage hsize hcursor =>
    refine ⟨hpage.ge, hsize.ge.trans' hs.one_le_size, ?_, ?_, fun h => ?_, fun _ => hpage⟩ <;>
      simp only [hsize, hcursor]
    · exact le_rfl
    · exact hs.one_le_pageSize
    · exact hs.pageSize_eq (hmode ▸ h)
  | resized _ hm hone hquery hcursor =>
    refine .of_server (hmode.trans hm) ?_ ?_ ?_ ?_ <;> simp only [hquery, hcursor]
    · exact le_rfl
    · exact hone
    · exact le_rfl
  | arrived hm hcursor hquery =>
    have hpage : 1 ≤ t.cursor.page := hcursor ▸ PageCursor.one_le_clamped_page _
    refine .of_server (hmode.trans hm) ?_ ?_ hpage ?_ <;> rw [hquery]
    · exact hpage
    · exact hs.one_le_size
    · rw [hcursor]
      exact Nat.max_eq_right hs.one_le_size
  | refilled hm hcursor hquery =>
    refine .of_client (hmode.trans hm) ?_ ?_ ?_ ?_ <;> simp only [hquery, hcursor]
    · exact hs.page_eq hm
    · exact hs.one_le_size
    · exact PageCursor.one_le_clamped_page _
    · exact hs.one_le_pageSize

/-- The page size of the query is the server's business alone. -/
theorem Steers.size_eq {s t : ListState} {m : Message} (h : s.Steers m t)
    (hmode : s.mode = .client) : t.query.size = s.query.size := by
  cases h with
  | kept _ _ hsize | restarted _ _ hsize => exact hsize
  | turned _ _ _ hquery | refilled _ _ hquery => rw [hquery]
  | asked _ hm | resized _ hm | arrived hm => cases hm.symm.trans hmode

/-- A reply leaves the cursor on a page that there is. -/
theorem Steers.inRange_of_isReply {s t : ListState} {m : Message} (h : s.Steers m t)
    (hm : s.IsReply m) : t.InRange := by
  unfold InRange
  cases h with
  | arrived _ hcursor | refilled _ hcursor =>
    rw [hcursor]
    exact PageCursor.clamped_page_le _
  | kept hnot | asked hnot | turned hnot | restarted hnot | resized hnot => exact absurd hm hnot

/-- From there no message leads it away. -/
theorem Steers.inRange {s t : ListState} {m : Message} (h : s.Steers m t) (hs : s.InRange) :
    t.InRange := by
  unfold InRange at hs ⊢
  cases h with
  | kept _ _ _ hcursor | asked _ _ _ _ hcursor =>
    rw [hcursor]
    exact hs
  | turned _ _ _ _ hcursor | arrived _ hcursor | refilled _ hcursor =>
    rw [hcursor]
    exact PageCursor.clamped_page_le _
  | restarted _ _ _ hcursor | resized _ _ _ _ hcursor =>
    rw [hcursor]
    exact PageCursor.one_le_totalPages _

theorem Paged.update {s : ListState} (hs : s.Paged) (m : Message) : (s.update m).1.Paged := by
  cases hopen : s.disposed with
  | true => rwa [update_of_disposed hopen]
  | false => exact (steers_update hopen m).paged hs (mode_update s m)

theorem Opened.paged {s : ListState} (h : s.Opened) : s.Paged := by
  obtain ⟨mode, query, rfl⟩ := h.exists_ofQuery
  have hone (n : Nat) : 1 ≤ max 1 n := Nat.le_max_left 1 n
  refine ⟨?_, hone _, hone _, hone _, fun _ => ?_, fun h => ?_⟩
  · cases mode with
    | server => exact hone _
    | client => exact le_rfl
  · exact Nat.max_eq_right (hone _)
  · cases mode with
    | server => cases h
    | client => rfl

theorem Reached.paged {s : ListState} (h : s.Reached) : s.Paged := by
  induction h with
  | opened h => exact h.paged
  | update _ m ih => exact ih.update m
  | consumeDirty _ ih => exact ih.of_eq rfl rfl rfl rfl

/-! ## Whole runs -/

theorem size_run {s : ListState} (hmode : s.mode = .client) (ms : List Message) :
    (s.run ms).query.size = s.query.size := by
  induction ms using List.reverseRecOn with
  | nil => rfl
  | append_singleton ms m ih =>
    rw [run_concat]
    cases hopen : (s.run ms).disposed with
    | true => rw [update_of_disposed hopen, ih]
    | false => rw [(steers_update hopen m).size_eq ((mode_run s ms).trans hmode), ih]

/-- Once a reply has counted, the cursor is on a page that there is. -/
theorem Opened.inRange_of_counts {s : ListState} (hs : s.Opened) {ms : List Message} {i : Nat}
    {snapshot : Snapshot} (h : s.Counts ms i snapshot) : (s.run ms).InRange := by
  induction ms using List.reverseRecOn generalizing i snapshot with
  | nil => exact absurd h.lt_length (Nat.not_lt_zero i)
  | append_singleton ms m ih =>
    rw [run_concat]
    by_cases hm : .disposed ∈ ms ∨ ¬ (s.run ms).IsReply m
    · have hbefore := ih (counts_of_concat hm h)
      cases hopen : (s.run ms).disposed with
      | true => rwa [update_of_disposed hopen]
      | false => exact (steers_update hopen m).inRange hbefore
    · obtain ⟨hm, hreply⟩ := not_or.mp hm
      have hopen : (s.run ms).disposed = false := by
        simpa using mt (hs.disposed_run_iff ms).mp hm
      exact (steers_update hopen m).inRange_of_isReply (not_not.mp hreply)

/-- In every run of a view that is opened, from whatever page and page size: neither the query nor
the cursor is ever at page zero or has pages of no rows, so no page is asked for that way. Paged by
the server, the cursor has the page size of the query. Paged by the client, the query stays on its
first page with the size that it was given, and to turn or resize the pages asks for nothing and
leaves the query as it is, so that a reply under way still counts. Once a reply has counted, the
cursor is on a page that there is, and the pages before and behind it can be reached exactly if the
view says so. -/
theorem paging_kept {s : ListState} (hs : s.Opened) (ms : List Message) :
    let t := s.run ms
    (1 ≤ t.query.page ∧ 1 ≤ t.query.size ∧ 1 ≤ t.cursor.page ∧ 1 ≤ t.cursor.pageSize) ∧
      (∀ m query, .fetchPage query ∈ (t.update m).2 → 1 ≤ query.page ∧ 1 ≤ query.size) ∧
      (s.mode = .server → t.cursor.pageSize = t.query.size) ∧
      (s.mode = .client → t.query.page = 1 ∧ t.query.size = s.query.size ∧
        ∀ m, m.Pages → (t.update m).2 = [] ∧ (t.update m).1.query = t.query) ∧
      ((∃ i snapshot, s.Counts ms i snapshot) →
        t.cursor.page ≤ t.cursor.totalPages ∧
          (t.cursor.hasPrevious = true ↔ (t.cursor.step? (-1)).isSome = true) ∧
          (t.cursor.hasNext = true ↔ (t.cursor.step? 1).isSome = true)) := by
  intro t
  have hpaged : t.Paged := run_induction (fun _ m ht => ht.update m) hs.paged ms
  have hmode : t.mode = s.mode := mode_run s ms
  refine ⟨⟨hpaged.one_le_page, hpaged.one_le_size, hpaged.one_le_cursor, hpaged.one_le_pageSize⟩,
    fun m query hquery => ?_, fun h => hpaged.pageSize_eq (hmode.trans h), fun h => ?_, ?_⟩
  · cases hopen : t.disposed with
    | true =>
      rw [update_of_disposed hopen] at hquery
      cases hquery
    | false =>
      rw [(reaction_update hopen m).eq_query hquery]
      exact ⟨(hpaged.update m).one_le_page, (hpaged.update m).one_le_size⟩
  · exact ⟨hpaged.page_eq (hmode.trans h), size_run h ms,
      fun m hm => update_of_pages (hmode.trans h) hm⟩
  · rintro ⟨i, snapshot, hcounts⟩
    have hrange : t.cursor.page ≤ t.cursor.totalPages := hs.inRange_of_counts hcounts
    exact ⟨hrange, PageCursor.hasPrevious_iff hrange, t.cursor.hasNext_iff⟩

/-- A view is opened at page zero with pages of no rows. The server has two tasks, and the view turns
to the second one; then one task is gone, and the view is pulled back to the page before, where
nothing is before or behind it. -/
theorem paging_kept_from_page_zero :
    let s := ofQuery .server { page := 0, size := 0 }
    let ms : List Message :=
      [.pageLoaded { size := 1 } ⟨[], 2⟩, .pageChanged 1,
        .pageLoaded { page := 2, size := 1 } ⟨[], 1⟩]
    let t := s.run ms
    t.query.page = 1 ∧ t.query.size = 1 ∧ t.cursor.pageSize = t.query.size ∧
      t.cursor.page ≤ t.cursor.totalPages ∧ (t.cursor.step? (-1)).isSome = false ∧
      (t.cursor.step? 1).isSome = false := by
  intro s ms t
  have hs : s.Opened := .ofQuery _ _
  have hcounts : s.Counts ms 0 ⟨[], 2⟩ := ⟨{ size := 1 }, rfl, by simp, rfl⟩
  obtain ⟨-, -, hsize, -, hrange⟩ := paging_kept hs ms
  obtain ⟨hle, hprevious, hnext⟩ := hrange ⟨0, _, hcounts⟩
  refine ⟨by decide, by decide, hsize rfl, hle, ?_, ?_⟩
  · simpa using mt hprevious.mpr (by decide)
  · simpa using mt hnext.mpr (by decide)

end ListState

end TaskDesk
