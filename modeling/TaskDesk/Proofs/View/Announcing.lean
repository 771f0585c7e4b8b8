import TaskDesk.Proofs.View.Drawing

/-!
# What a message says about a changed view

A view that may look different says so by its dirty flag. A fetch raises the flag only if nothing
is loading yet, and a message that goes back to the first page relies on its fetch for that. So one
that comes while a fetch is under way changes what is shown, and the flag stays as it is.

## Main definitions

- `ListView.Trails` — a view that is behind another one by its position and its filters
- `ListState.Announces` — the three ways to deal with the dirty flag
- `ListState.Reached` — the states of a view whose flag is looked at now and then

## Main results

- `ListState.announces_update` — every message that leaves the view open deals with it in one of
  them
- `ListState.not_announced_while_loading` — a filter that changes during a fetch raises no flag
-/

namespace TaskDesk

/-- The views differ by nothing but the position and the filters. -/
def ListView.Trails (old new : ListView) : Prop :=
  { old with
    cursor := new.cursor
    statusFilter := new.statusFilter
    kindFilter := new.kindFilter } = new

theorem ListView.Trails.trans {u v w : ListView} (h : u.Trails v) (hw : v.Trails w) :
    u.Trails w := by
  unfold Trails at h hw ⊢
  rw [← hw, ← h]

theorem ListView.Trails.loading_eq {v w : ListView} (h : v.Trails w) : v.loading = w.loading := by
  unfold Trails at h
  rw [← h]

theorem ListView.Trails.dirty_eq {v w : ListView} (h : v.Trails w) : v.dirty = w.dirty := by
  unfold Trails at h
  rw [← h]

namespace ListState

/-- What a message does about the dirty flag. -/
inductive Announces (s : ListState) : Message → ListState → Prop
  /-- The flag is up. -/
  | told {m : Message} {t : ListState} (hdirty : t.dirty = true) : Announces s m t
  /-- Nothing looks different, and the flag stays. -/
  | unchanged {m : Message} {t : ListState} (hview : t.view = s.view) : Announces s m t
  /-- The position or a filter changes while a fetch is under way, and the flag stays. -/
  | unnoticed {m : Message} {t : ListState} (hloading : s.loading = true) (hstray : s.Strays m)
      (hview : s.view.Trails t.view) : Announces s m t

/-- A fetch raises the flag, or something is loading already. -/
theorem fetch_dirty (s : ListState) :
    s.fetch.1.dirty = true ∨ (s.loading = true ∧ s.fetch.1 = s) := by
  simp only [fetch, setLoading]
  split
  · next h => exact .inr ⟨h, rfl⟩
  · exact .inl rfl

theorem announces_fetch {s u : ListState} (m : Message) (hview : u.view = s.view) :
    s.Announces m u.fetch.1 := by
  rcases u.fetch_dirty with hdirty | ⟨-, heq⟩
  · exact .told hdirty
  · rw [heq]
    exact .unchanged hview

/-- A message that goes back to the first page leaves the flag to its fetch. -/
theorem announces_stray {s u : ListState} {m : Message} (hm : s.Strays m)
    (hview : s.view.Trails u.view) : s.Announces m u.fetch.1 := by
  rcases u.fetch_dirty with hdirty | ⟨hloading, heq⟩
  · exact .told hdirty
  · rw [heq]
    exact .unnoticed (hview.loading_eq.trans hloading) hm hview

theorem load_dirty (s : ListState) (snapshot : Snapshot) : (s.load snapshot).2.dirty = true := by
  simp only [load]
  split <;> rfl

theorem announces_receive (s : ListState) (query : ListQuery) (snapshot : Snapshot) :
    s.Announces (.pageLoaded query snapshot) (s.receive query snapshot).1 := by
  unfold receive
  split
  · refine .told ?_
    simp only
    split
    · rw [fetch_eq]
      exact Bool.or_eq_true_iff.mpr (.inl (s.load_dirty snapshot))
    · rw [settlePolling_eq]
      exact s.load_dirty snapshot
  · exact .unchanged rfl

theorem announces_pageChanged (s : ListState) (delta : Int) :
    s.Announces (.pageChanged delta) (s.react (.pageChanged delta)).1 := by
  simp only [react]
  split
  · unfold goTo
    split
    · exact announces_fetch _ rfl
    · exact .told rfl
  · exact .unchanged rfl

theorem announces_resize (s : ListState) (size : Nat) :
    s.Announces (.pageSizeChanged size) (s.resize size).1 := by
  unfold resize
  split
  · exact .unchanged rfl
  · next hnew =>
    cases hmode : s.mode with
    | server =>
      simp only [setPageSize, hmode]
      exact announces_stray ⟨hmode, hnew⟩ rfl
    | client =>
      simp only [setPageSize, hmode]
      exact .told rfl

/-- Every message that leaves the view open deals with the flag in one of three ways. -/
theorem announces_react (s : ListState) {m : Message} (hm : m ≠ .disposed) :
    s.Announces m (s.react m).1 := by
  cases m with
  | pageLoaded query snapshot => exact s.announces_receive query snapshot
  | pageChanged delta => exact s.announces_pageChanged delta
  | pageSizeChanged size => exact s.announces_resize size
  | statusFilterChanged | kindFilterChanged => exact announces_stray trivial rfl
  | refreshRequested => exact announces_fetch _ rfl
  | selectionToggled task =>
    simp only [react, toggleTask]
    split
    · exact .told rfl
    · exact .unchanged rfl
  | selectAllToggled | selectionCleared => exact .told rfl
  | batchDeleted | tasksCleared =>
    refine .told ?_
    simp only [react, announce, fetch_eq]
    rfl
  | loadFailed reason =>
    simp only [react, setLoading]
    split
    · exact .unchanged rfl
    · exact .told rfl
  | authInvalid =>
    refine .told ?_
    rw [react, stopPolling_eq]
    rfl
  | batchDeleteRequested | clearTasksRequested | actionFailed => exact .unchanged rfl
  | disposed => exact absurd rfl hm

theorem announces_update (s : ListState) {m : Message} (hm : m ≠ .disposed) :
    s.Announces m (s.update m).1 := by
  cases hopen : s.disposed with
  | true =>
    rw [update_of_disposed hopen]
    exact .unchanged rfl
  | false =>
    have heq : s.update m = s.react m := by simp [update, hopen]
    rw [heq]
    exact s.announces_react hm

/-- A state of a view that takes messages, and whose flag is looked at now and then. -/
inductive Reached : ListState → Prop
  | opened {s : ListState} (h : s.Opened) : Reached s
  | update {s : ListState} (h : Reached s) (m : Message) : Reached (s.update m).1
  | consumeDirty {s : ListState} (h : Reached s) : Reached s.consumeDirty.2

/-- When a fetch is under way and the front end has been told of that, a new filter is shown
without the flag. -/
theorem not_announced_while_loading :
    ¬ ∀ (s : ListState) (m : Message), s.Reached → m ≠ .disposed →
        { (s.update m).1.view with dirty := s.dirty } ≠ s.view → (s.update m).1.dirty = true := by
  intro htold
  have hasked : (initial.update .refreshRequested).1.consumeDirty.2.Reached :=
    ((Reached.opened .initial).update .refreshRequested).consumeDirty
  have hdirty := htold _ (.statusFilterChanged (some .failed)) hasked nofun (by decide)
  revert hdirty
  decide

end ListState

end TaskDesk
