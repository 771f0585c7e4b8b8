import TaskDesk.View.Update

/-!
# What a message does to an open view

An open view reacts to a message in one of eight ways. `ListState.Reaction` lists them by the
parts of the state that they touch, so that what a message keeps is said once and for all
messages together.

## Main definitions

- `Effect.switch` — the effects that turn polling on or off
- `ListState.IsPastEnd` — the page asked for lies behind the last one
- `ListState.Reaction` — the eight ways to react

## Main results

- `ListState.reaction_react` — every message leads to one of them
-/

namespace TaskDesk

namespace Effect

/-- An effect that turns polling on or off. -/
def isPolling : Effect → Bool
  | startPolling | stopPolling => true
  | _ => false

/-- The query of an effect that asks for a page. -/
def query? : Effect → Option ListQuery
  | fetchPage query => some query
  | _ => none

/-- An effect that neither asks for a page nor turns polling on or off. -/
def IsPlain (e : Effect) : Prop :=
  e.isPolling = false ∧ e.query? = none

/-- The effects ask for the page of one query, and nothing else about pages or polling. -/
structure Asks (query : ListQuery) (effects : List Effect) : Prop where
  mem : .fetchPage query ∈ effects
  eq_or_plain : ∀ e ∈ effects, e = .fetchPage query ∨ e.IsPlain

theorem asks_singleton (query : ListQuery) : Asks query [.fetchPage query] where
  mem := List.mem_singleton_self _
  eq_or_plain _ he := .inl (List.mem_singleton.mp he)

theorem Asks.cons {query : ListQuery} {effects : List Effect} (h : Asks query effects) {e : Effect}
    (he : e.IsPlain) : Asks query (e :: effects) where
  mem := List.mem_cons_of_mem _ h.mem
  eq_or_plain := List.forall_mem_cons.mpr ⟨.inr he, h.eq_or_plain⟩

/-- What has to be done so that polling goes from one state to another. -/
def switch : (before after : Bool) → List Effect
  | false, true => [.startPolling]
  | true, false => [.stopPolling]
  | _, _ => []

@[simp] theorem switch_self (b : Bool) : switch b b = [] := by
  cases b <;> rfl

@[simp] theorem filter_isPolling_switch (b c : Bool) :
    (switch b c).filter isPolling = switch b c := by
  cases b <;> cases c <;> rfl

theorem query?_of_mem_switch {b c : Bool} {e : Effect} (h : e ∈ switch b c) : e.query? = none := by
  cases b <;> cases c <;> simp only [switch, List.mem_singleton, List.not_mem_nil] at h <;>
    rw [h] <;> rfl

theorem filter_isPolling_of_plain {effects : List Effect} (h : ∀ e ∈ effects, e.IsPlain) :
    effects.filter isPolling = [] := by
  simp only [List.filter_eq_nil_iff, Bool.not_eq_true]
  exact fun e he => (h e he).1

theorem Asks.isPolling {query : ListQuery} {effects : List Effect} (h : Asks query effects)
    {e : Effect} (he : e ∈ effects) : e.isPolling = false := by
  rcases h.eq_or_plain e he with rfl | hp
  · rfl
  · exact hp.1

theorem Asks.eq_of_query? {query other : ListQuery} {effects : List Effect}
    (h : Asks query effects) {e : Effect} (he : e ∈ effects) (hq : e.query? = some other) :
    other = query := by
  rcases h.eq_or_plain e he with rfl | hp
  · exact (Option.some.inj hq).symm
  · rw [hp.2] at hq; cases hq

end Effect

namespace PageCursor

theorem one_le_totalPages (c : PageCursor) : 1 ≤ c.totalPages := by
  have h : 1 ≤ maxPage := by decide
  exact Nat.le_min.mpr ⟨h, Nat.le_max_left _ _⟩

theorem clamped_page_of_le {c : PageCursor} (hp : 1 ≤ c.page) (h : c.page ≤ c.totalPages) :
    c.clamped.page = c.page := by
  change max 1 (min c.page c.totalPages) = c.page
  omega

theorem clamped_page_of_lt {c : PageCursor} (h : c.totalPages < c.page) :
    c.clamped.page = c.totalPages := by
  have hone := c.one_le_totalPages
  change max 1 (min c.page c.totalPages) = c.totalPages
  omega

end PageCursor

@[simp] theorem ShownPage.ids_remark (p : ShownPage) (selection : Selection) :
    (p.remark selection).ids = p.ids := by
  simp [ShownPage.remark, ShownPage.ids]

@[simp] theorem ShownPage.ids_of (tasks : List TaskRecord) (selection : Selection)
    (cursor : PageCursor) : (ShownPage.of tasks selection cursor).ids = tasks.map TaskRecord.id := by
  simp [ShownPage.of, ShownPage.ids, TaskRow.of]

namespace ListState

/-- The page that a list paged by the server asks for lies behind the last page of a list of so
many tasks. -/
def IsPastEnd (s : ListState) (total : Nat) : Prop :=
  s.mode = .server ∧ (PageCursor.of s.query.page s.query.size total).totalPages < max 1 s.query.page

instance (s : ListState) (total : Nat) : Decidable (s.IsPastEnd total) :=
  inferInstanceAs (Decidable (_ ∧ _))

/-! ## The parts of a reaction as changes of the state -/

theorem setLoading_eq (s : ListState) (loading : Bool) :
    s.setLoading loading = { s with loading, dirty := s.dirty || s.loading != loading } := by
  unfold setLoading
  split
  · next h => subst h; simp
  · next h => simp [touch, h]

theorem fetch_eq (s : ListState) :
    s.fetch = ({ s with loading := true, dirty := s.dirty || s.loading != true },
      [.fetchPage s.query]) := by
  rw [fetch, setLoading_eq]

theorem stopPolling_eq (s : ListState) :
    s.stopPolling = ({ s with polling := false }, Effect.switch s.polling false) := by
  unfold stopPolling
  split
  · next h => rw [h]; rfl
  · next h =>
    have h : s.polling = false := by simpa using h
    rw [h, Effect.switch_self, ← h]

theorem settlePolling_eq (s : ListState) :
    s.settlePolling =
      ({ s with polling := s.hasActiveWork }, Effect.switch s.polling s.hasActiveWork) := by
  unfold settlePolling
  split
  · next h =>
    rw [h]
    split
    · next hp => rw [hp, Effect.switch_self, ← hp]
    · next hp =>
      have hp : s.polling = false := by simpa using hp
      rw [hp]; rfl
  · next h =>
    have h : s.hasActiveWork = false := by simpa using h
    rw [h, stopPolling_eq]

section Load

variable (s : ListState) (snapshot : Snapshot)

/-- A load corrects the page exactly if the page asked for is past the end. -/
theorem load_fst : (s.load snapshot).1 = decide (s.IsPastEnd snapshot.total) := by
  simp only [load, IsPastEnd]
  split
  · next hm =>
    let asked := PageCursor.of s.query.page s.query.size snapshot.total
    have hp : 1 ≤ asked.page := Nat.le_max_left _ _
    -- The page asked for is at least one, so it is only ever pulled back, not pushed up.
    change (asked.page != asked.clamped.page) = decide (_ ∧ asked.totalPages < asked.page)
    by_cases h : asked.totalPages < asked.page
    · rw [PageCursor.clamped_page_of_lt h]
      simp [h, hm, (Nat.ne_of_lt h).symm]
    · rw [PageCursor.clamped_page_of_le hp (Nat.le_of_not_lt h)]
      simp [h]
  · next hm => simp [hm]

@[simp] theorem load_mode : (s.load snapshot).2.mode = s.mode := by
  simp only [load]; split <;> rfl

@[simp] theorem load_tasks : (s.load snapshot).2.tasks = snapshot.tasks := by
  simp only [load]; split <;> rfl

@[simp] theorem load_total : (s.load snapshot).2.cursor.total = snapshot.total := by
  simp only [load]; split <;> rfl

@[simp] theorem load_polling : (s.load snapshot).2.polling = s.polling := by
  simp only [load]; split <;> rfl

@[simp] theorem load_loading : (s.load snapshot).2.loading = false := by
  simp only [load]; split <;> rfl

@[simp] theorem load_authInvalid : (s.load snapshot).2.authInvalid = false := by
  simp only [load]; split <;> rfl

@[simp] theorem load_disposed : (s.load snapshot).2.disposed = s.disposed := by
  simp only [load]; split <;> rfl

@[simp] theorem load_hasActiveWork :
    (s.load snapshot).2.hasActiveWork = snapshot.tasks.any TaskRecord.isActive := by
  rw [hasActiveWork, load_tasks]

theorem load_ids_of_server (h : s.mode = .server) :
    (s.load snapshot).2.page.ids = snapshot.tasks.map TaskRecord.id := by
  simp only [load, h]
  exact ShownPage.ids_of _ _ _

end Load

/-! ## The ways to react -/

/-- The message ends the wait for the page that the view asks for: it brings that page, or says
that a fetch failed. -/
def EndsWait (s : ListState) : Message → Prop
  | .pageLoaded query _ => query = s.query
  | .loadFailed _ | .authInvalid => True
  | _ => False

/-- How an open view can react to a message. -/
inductive Reaction (s : ListState) : Message → ListState → List Effect → Prop
  /-- At most the ticks change. A reply for a query that the view has left is of this kind. -/
  | marked {m : Message} {selection : Selection} {page : ShownPage} {dirty : Bool}
      {effects : List Effect} (hm : ¬ s.EndsWait m) (hd : m ≠ .disposed)
      (hids : page.ids = s.page.ids) (heffects : ∀ e ∈ effects, e.IsPlain) :
      Reaction s m { s with selection, page, dirty } effects
  /-- Another slice of a list paged by the client is shown. -/
  | turned {m : Message} {cursor : PageCursor} {page : ShownPage} {dirty : Bool}
      (hm : ¬ s.EndsWait m) (hd : m ≠ .disposed) (hmode : s.mode = .client)
      (htotal : cursor.total = s.cursor.total) :
      Reaction s m { s with cursor, page, dirty } []
  /-- A page is asked for. -/
  | fetched {m : Message} {query : ListQuery} {cursor : PageCursor} {selection : Selection}
      {page : ShownPage} {dirty : Bool} {effects : List Effect} (hm : ¬ s.EndsWait m)
      (hd : m ≠ .disposed) (htotal : cursor.total = s.cursor.total)
      (hids : page.ids = s.page.ids) (hasks : Effect.Asks query effects) :
      Reaction s m { s with query, cursor, selection, page, loading := true, dirty } effects
  /-- The page is taken in, and polling follows its tasks. -/
  | settled {snapshot : Snapshot} (h : ¬ s.IsPastEnd snapshot.total) :
      Reaction s (.pageLoaded s.query snapshot)
        { (s.load snapshot).2 with polling := snapshot.tasks.any TaskRecord.isActive }
        (Effect.switch s.polling (snapshot.tasks.any TaskRecord.isActive))
  /-- The page is taken in, but it was past the end; the last page is asked for instead. -/
  | corrected {snapshot : Snapshot} {dirty : Bool} (h : s.IsPastEnd snapshot.total) :
      Reaction s (.pageLoaded s.query snapshot)
        { (s.load snapshot).2 with loading := true, dirty }
        [.fetchPage (s.load snapshot).2.query]
  /-- A fetch failed. -/
  | failed {reason text : String} {dirty : Bool} :
      Reaction s (.loadFailed reason) { s with loading := false, dirty } [.failure text]
  /-- The credential was rejected, which ends polling. -/
  | rejected {text : String} {dirty : Bool} :
      Reaction s .authInvalid
        { s with authInvalid := true, loading := false, polling := false, dirty }
        (Effect.switch s.polling false ++ [.failure text])
  /-- The view is closed, which ends polling. -/
  | closed :
      Reaction s .disposed { s with polling := false, disposed := true }
        (Effect.switch s.polling false)

theorem reaction_receive (s : ListState) (query : ListQuery) (snapshot : Snapshot) :
    s.Reaction (.pageLoaded query snapshot) (s.receive query snapshot).1
      (s.receive query snapshot).2 := by
  unfold receive
  split
  · next hq =>
    subst hq
    simp only [load_fst, decide_eq_true_eq]
    split
    · next h => rw [fetch_eq]; exact .corrected h
    · next h =>
      rw [settlePolling_eq, load_hasActiveWork, load_polling]
      exact .settled h
  · next hq =>
    refine .marked hq ?_ rfl ?_ <;> nofun

theorem reaction_goTo (s : ListState) {m : Message} (hm : ¬ s.EndsWait m) (hd : m ≠ .disposed)
    (page : Nat) : s.Reaction m (s.goTo page).1 (s.goTo page).2 := by
  unfold goTo
  split
  · rw [fetch_eq]; exact .fetched hm hd rfl rfl (Effect.asks_singleton _)
  · next hmode => exact .turned hm hd hmode rfl

theorem reaction_resize (s : ListState) {m : Message} (hm : ¬ s.EndsWait m) (hd : m ≠ .disposed)
    (size : Nat) : s.Reaction m (s.resize size).1 (s.resize size).2 := by
  unfold resize
  split
  · exact .marked hm hd rfl (List.forall_mem_nil _)
  · cases hmode : s.mode with
    | server =>
      simp only [setPageSize, hmode, fetch_eq]
      rw [← hmode]
      exact .fetched hm hd rfl rfl (Effect.asks_singleton _)
    | client =>
      simp only [setPageSize, hmode]
      rw [← hmode]
      exact .turned hm hd hmode rfl

theorem reaction_announce (s : ListState) {m : Message} (hm : ¬ s.EndsWait m)
    (hd : m ≠ .disposed) (selection : Selection) (text : String) :
    s.Reaction m (({ s with selection }.remark).announce text).1
      (({ s with selection }.remark).announce text).2 := by
  unfold announce
  rw [fetch_eq]
  exact .fetched hm hd rfl (ShownPage.ids_remark _ _)
    ((Effect.asks_singleton _).cons ⟨rfl, rfl⟩)

/-- Every message leads to one of the eight reactions. -/
theorem reaction_react (s : ListState) (m : Message) :
    s.Reaction m (s.react m).1 (s.react m).2 := by
  have hids (selection : Selection) : (s.page.remark selection).ids = s.page.ids :=
    ShownPage.ids_remark _ _
  have hone {e : Effect} (he : e.IsPlain) : ∀ f ∈ [e], f.IsPlain := by simpa using he
  cases m with
  | pageLoaded query snapshot => exact s.reaction_receive query snapshot
  | loadFailed reason =>
    rw [react, setLoading_eq]
    exact .failed
  | authInvalid =>
    rw [react, stopPolling_eq]
    exact .rejected
  | disposed =>
    rw [react, stopPolling_eq]
    exact .closed
  | refreshRequested =>
    rw [react, fetch_eq]
    exact .fetched id (by nofun) rfl rfl (Effect.asks_singleton _)
  | pageChanged delta =>
    simp only [react]
    split
    · exact s.reaction_goTo id (by nofun) _
    · exact .marked id (by nofun) rfl (List.forall_mem_nil _)
  | pageSizeChanged size => exact s.reaction_resize id (by nofun) size
  | statusFilterChanged status =>
    rw [react, fetch_eq]
    exact .fetched id (by nofun) rfl rfl (Effect.asks_singleton _)
  | kindFilterChanged kind =>
    rw [react, fetch_eq]
    exact .fetched id (by nofun) rfl rfl (Effect.asks_singleton _)
  | selectionToggled task =>
    simp only [react, toggleTask]
    split
    · exact .marked id (by nofun) (hids _) (List.forall_mem_nil _)
    · exact .marked id (by nofun) rfl (List.forall_mem_nil _)
  | selectAllToggled => exact .marked id (by nofun) (hids _) (List.forall_mem_nil _)
  | selectionCleared => exact .marked id (by nofun) (hids _) (List.forall_mem_nil _)
  | batchDeleteRequested =>
    simp only [react]
    split
    · exact .marked id (by nofun) rfl (List.forall_mem_nil _)
    · exact .marked id (by nofun) rfl (hone ⟨rfl, rfl⟩)
  | batchDeleted ids text => exact s.reaction_announce id (by nofun) _ _
  | clearTasksRequested => exact .marked id (by nofun) rfl (hone ⟨rfl, rfl⟩)
  | tasksCleared text => exact s.reaction_announce id (by nofun) _ _
  | actionFailed reason => exact .marked id (by nofun) rfl (hone ⟨rfl, rfl⟩)

end ListState

end TaskDesk
