import TaskDesk.Proofs.Session.Step
import TaskDesk.Proofs.View.Announcing

/-!
# What the front end knows of a list

Whenever the state machine has taken a message, a session tells the front end what the list looks
like if the dirty flag is up, and takes the flag down. So what was told last is what is shown now,
unless a message has changed the position or the filters while a fetch was under way. That lasts
until the list is told again, and the end of the fetch sees to it.

## Main definitions

- `Mark.shown?` — the list that the front end is told about
- `Mark.lastShown` — the one it was told about last
- `Mark.Unnoticed` — the position or a filter has changed, and nothing was told since
- `Session.Knows` — what is shown was told, or a fetch is still under way

## Main results

- `Session.Turns.knows` — it holds in every order of the activities
- `Session.told_unless_strayed` — what was told last is what is shown, or something went unnoticed
-/

namespace TaskDesk

/-- The list that an event is about. -/
def Event.view? : Event → Option ListView
  | listRefreshed view => some view
  | _ => none

namespace Mark

/-- The list that the front end is told about. -/
def shown? : Mark → Option ListView
  | took s m => s.refreshed? m
  | ticked _ => none

/-- The list that the front end was told about last, or the one that it began with. -/
def lastShown (first : ListView) (marks : List Mark) : ListView :=
  (marks.filterMap shown?).getLastD first

/-- While a fetch was under way the position or a filter has changed, and the front end was not
told of any list since. -/
def Unnoticed (marks : List Mark) : Prop :=
  ∃ before s m after, marks = before ++ .took s m :: after ∧ s.loading = true ∧ s.Strays m ∧
    ∀ mark ∈ after, mark.shown? = none

theorem lastShown_of_none (first : ListView) (marks : List Mark) {new : List Mark}
    (h : ∀ mark ∈ new, mark.shown? = none) :
    lastShown first (marks ++ new) = lastShown first marks := by
  have hnone : new.filterMap shown? = [] := List.filterMap_eq_nil_iff.mpr h
  rw [lastShown, List.filterMap_append, hnone, List.append_nil, lastShown]

theorem lastShown_of_some (first : ListView) (marks : List Mark) {mark : Mark} {view : ListView}
    (h : mark.shown? = some view) : lastShown first (marks ++ [mark]) = view := by
  rw [lastShown, List.filterMap_append, List.filterMap_cons_some h, List.filterMap_nil,
    List.getLastD_concat]

theorem Unnoticed.append {marks new : List Mark} (h : Unnoticed marks)
    (hnew : ∀ mark ∈ new, mark.shown? = none) : Unnoticed (marks ++ new) := by
  obtain ⟨before, s, m, after, rfl, hloading, hstray, hafter⟩ := h
  have hall : ∀ mark ∈ after ++ new, mark.shown? = none :=
    List.forall_mem_append.mpr ⟨hafter, hnew⟩
  refine ⟨before, s, m, after ++ new, ?_, hloading, hstray, hall⟩
  rw [List.append_assoc, List.cons_append]

end Mark

namespace Session

variable {κ : Type}

/-- What the front end knows of a list when these marks have been noted. -/
inductive Knows (first : ListView) (marks : List Mark) (s : ListState) : Prop
  /-- What it was told last is what is shown. -/
  | current (h : Mark.lastShown first marks = s.view)
  /-- Something went unnoticed, and a fetch is still under way. -/
  | behind (hloading : s.loading = true) (hview : (Mark.lastShown first marks).Trails s.view)
      (hunnoticed : Mark.Unnoticed marks)

/-- As long as nothing else is shown and nothing is told, what the front end knows stays. -/
theorem Knows.append {first : ListView} {marks new : List Mark} {s t : ListState}
    (h : Knows first marks s) (hview : t.view = s.view)
    (hnew : ∀ mark ∈ new, mark.shown? = none) : Knows first (marks ++ new) t := by
  have hshown := Mark.lastShown_of_none first marks hnew
  have hloading : t.loading = s.loading := congrArg ListView.loading hview
  cases h with
  | current h => exact .current (by rw [hshown, h, hview])
  | behind hs htrails hunnoticed =>
    refine .behind (hloading.trans hs) ?_ (hunnoticed.append hnew)
    rw [hshown, hview]
    exact htrails

/-- Whatever message leaves the view open, the front end is told, or the fetch under way goes on. -/
theorem Knows.took {first : ListView} {marks : List Mark} {s : ListState} {m : Message}
    (h : Knows first marks s) (hclean : s.dirty = false) (hm : m ≠ .disposed) :
    Knows first (marks ++ [.took s m]) { (s.update m).1 with dirty := false } := by
  have hquiet (hdirty : (s.update m).1.dirty = false) :
      { (s.update m).1 with dirty := false } = (s.update m).1 ∧
        ∀ mark ∈ [Mark.took s m], mark.shown? = none := by
    refine ⟨by rw [← hdirty], List.forall_mem_singleton.mpr ?_⟩
    simp [Mark.shown?, ListState.refreshed?, hdirty]
  have hannounces := s.announces_update hm
  generalize ht : (s.update m).1 = t at hannounces hquiet
  cases hannounces with
  | told hdirty =>
    refine .current (Mark.lastShown_of_some first marks ?_)
    simp [Mark.shown?, ListState.refreshed?, ListState.consumeDirty, ht, hdirty]
  | unchanged hview =>
    have hdirty : t.dirty = false := (congrArg ListView.dirty hview).trans hclean
    obtain ⟨hstate, hnone⟩ := hquiet hdirty
    rw [hstate]
    exact h.append hview hnone
  | unnoticed hs hstray hview =>
    have hdirty : t.dirty = false := hview.dirty_eq.symm.trans hclean
    have hloading : t.loading = true := hview.loading_eq.symm.trans hs
    obtain ⟨hstate, hnone⟩ := hquiet hdirty
    rw [hstate]
    refine .behind hloading ?_ ⟨marks, s, m, [], rfl, hs, hstray, List.forall_mem_nil _⟩
    rw [Mark.lastShown_of_none first marks hnone]
    cases h with
    | current h => rwa [h]
    | behind _ htrails _ => exact htrails.trans hview

variable [Vault κ]

/-- The state of a session changes only when the state machine takes a message. -/
theorem Turn.takes {s t : Session κ} {new : List Mark} (h : Turn s new t) :
    (∃ m, new = [.took s.state m] ∧ t.state = { (s.state.update m).1 with dirty := false }) ∨
      t.state = s.state ∧ ∀ mark ∈ new, mark.shown? = none := by
  have hnil : ∀ mark ∈ ([] : List Mark), mark.shown? = none := List.forall_mem_nil _
  cases h with
  | @goOn a ha =>
    rcases state_step { s with running := none } a with
      ⟨m, hmarks, hstate⟩ | ⟨hstate, hnone | ⟨run, poller, -, hmarks, -⟩⟩
    · exact .inl ⟨m, hmarks, hstate⟩
    · refine .inr ⟨hstate, ?_⟩
      rw [show s.marks a = [] from hnone]
      exact hnil
    · refine .inr ⟨hstate, ?_⟩
      rw [show s.marks a = [.ticked run] from hmarks]
      exact List.forall_mem_singleton.mpr rfl
  | dispose => exact .inl ⟨.disposed, rfl, rfl⟩
  | wait | takeUp | dispatch | spawn | outside => exact .inr ⟨rfl, hnil⟩

/-- As long as the view is not closed, the front end knows the list, or something went unnoticed. -/
theorem Turns.knows {s t : Session κ} {marks : List Mark} (h : Turns s marks t)
    (hs : s.state.dirty = false) :
    t.state.dirty = false ∧ (t.state.disposed = false → Knows s.state.view marks t.state) := by
  induction h with
  | refl => exact ⟨hs, fun _ => .current rfl⟩
  | @tail t u marks new _ hturn ih =>
    obtain ⟨hclean, hknows⟩ := ih
    rcases hturn.takes with ⟨m, rfl, hstate⟩ | ⟨hstate, hnone⟩
    · rw [hstate]
      refine ⟨rfl, fun hopen => ?_⟩
      have hnot : ¬ (t.state.disposed = true ∨ m = .disposed) := by
        rw [← ListState.disposed_update_iff]
        simpa using hopen
      have hbefore : t.state.disposed = false := by simpa using fun hd => hnot (.inl hd)
      exact (hknows hbefore).took hclean fun hm => hnot (.inr hm)
    · rw [hstate]
      exact ⟨hclean, fun hopen => (hknows hopen).append rfl hnone⟩

/-- A step tells the front end of exactly the lists that its marks stand for. -/
theorem exists_told_step (s : Session κ) (a : Activity) :
    ∃ told, (s.step a).world.events = s.world.events ++ told ∧
      told.filterMap Event.view? = (s.marks a).filterMap Mark.shown? := by
  obtain ⟨told, sent, htells, hevents, -⟩ := s.exists_tells_step a
  refine ⟨told, hevents, ?_⟩
  cases htells with
  | notified | performed | ended | awaited => rfl
  | @took m =>
    have hmark : (Mark.took s.state m).shown? = s.state.refreshed? m := rfl
    change _ = [Mark.took s.state m].filterMap Mark.shown?
    rw [List.filterMap_cons, hmark]
    cases s.state.refreshed? m <;> rfl
  | flew htold =>
    refine List.filterMap_eq_nil_iff.mpr fun e he => ?_
    obtain ⟨scope, rfl⟩ := htold e he
    rfl
  | ticked =>
    simp only [marks]
    split <;> rfl

/-- A world whose credential is there. -/
private def credited : World MemoryVault :=
  { vault := ⟨{ admin := some "key" }⟩ }

/-- A message that does not close a view raises the dirty flag, or it changes nothing that is
shown, or a fetch is under way and it goes back to the first page. Only in the last case the
position and the filters change without the flag. As long as a session is not closed, what it told
last is therefore what its list shows, but for the position and the filters of a message that came
while a fetch was under way; and then the fetch is still under way. Every step tells exactly the
lists that are noted. -/
theorem told_unless_strayed (config : ViewConfig) (policy : RetryPolicy) (world : World κ)
    {marks : List Mark} {s : Session κ} (h : Turns (opened config policy world) marks s)
    (hopen : s.state.disposed = false) :
    let shown := Mark.lastShown config.initialState.view marks
    (∀ (u : ListState) (m : Message), m ≠ .disposed → u.Announces m (u.update m).1) ∧
      (shown = s.state.view ∨
        s.state.loading = true ∧ shown.Trails s.state.view ∧ Mark.Unnoticed marks) ∧
      ∀ a, s.running = some a →
        ∃ told, (step { s with running := none } a).world.events = s.world.events ++ told ∧
          told.filterMap Event.view? = (s.marks a).filterMap Mark.shown? := by
  intro shown
  refine ⟨fun u m hm => u.announces_update hm, ?_, fun a _ => ?_⟩
  · obtain ⟨-, hknows⟩ := h.knows rfl
    cases hknows hopen with
    | current h => exact .inl h
    | behind hloading htrails hunnoticed => exact .inr ⟨hloading, htrails, hunnoticed⟩
  · exact exists_told_step { s with running := none } a

/-- While the fetch of a refresh is under way, a new filter is shown, but the front end has last
been told of a list without one. -/
theorem told_unless_strayed_while_loading :
    ∃ (marks : List Mark) (s : Session MemoryVault),
      Turns (opened {} {} credited) marks s ∧ s.state.disposed = false ∧
        (Mark.lastShown (ViewConfig.initialState {}).view marks).statusFilter = none ∧
        s.state.view.statusFilter = some .failed ∧
        (Mark.lastShown (ViewConfig.initialState {}).view marks).Trails s.state.view ∧
        Mark.Unnoticed marks := by
  have hasked : Turns (opened {} {} credited) _ _ := (Turn.dispatch rfl .refreshRequested).turns
  have hflight := (hasked.tail (.goOn rfl)).tail (.goOn rfl)
  have hwait := hflight.tail (.wait rfl (by exact trivial) 0 false)
  have hfiltered := hwait.tail (.dispatch rfl (.statusFilterChanged (some .failed)))
  obtain ⟨marks, s, hs, hopen, hold, hnew⟩ :
      ∃ (marks : List Mark) (s : Session MemoryVault),
        Turns (opened {} {} credited) marks s ∧ s.state.disposed = false ∧
          (Mark.lastShown (ViewConfig.initialState {}).view marks).statusFilter = none ∧
          s.state.view.statusFilter = some .failed :=
    ⟨_, _, hfiltered.tail (.goOn rfl), rfl, rfl, rfl⟩
  refine ⟨marks, s, hs, hopen, hold, hnew, ?_⟩
  obtain ⟨-, heq | ⟨-, hbehind⟩, -⟩ := told_unless_strayed _ _ _ hs hopen
  · rw [heq, hnew] at hold
    cases hold
  · exact hbehind

end Session

end TaskDesk
