import Mathlib.Data.List.Sort
import TaskDesk.Proofs.View.Marking

/-!
# The group control

The group control acts on the shown tasks together. Which way it goes is asked of every shown task
in turn, while the mark that the operator sees counts them, a task as often as it is shown. The two
agree: from a group that is marked as all ticked the control unticks it, from any other it ticks all
of it. So the mark says what the control is going to do, and using it twice either gives back the
selection or takes the shown tasks out of it.

## Main results

- `Selection.Ordered.ext` — ordered selections that tick the same tasks are the same
- `Selection.toggleAll_of_all`, `Selection.toggleAll_of_ne_all` — the control goes by the mark
- `Selection.group_follows_mark` — what the control, used once and twice, does to every task
- `ListState.Reached.mark_of_selectAllToggled` — the control of a view
-/

namespace TaskDesk

namespace Selection

variable {s t : Selection} {shown : List TaskId}

/-- Ordered selections that tick the same tasks are the same. -/
theorem Ordered.ext (hs : s.Ordered) (ht : t.Ordered) (h : ∀ id, s.has id = t.has id) : s = t := by
  have hids : s.ids = t.ids := by
    apply List.Pairwise.eq_of_mem_iff hs ht
    intro id
    rw [← has_iff_mem, ← has_iff_mem, h id]
  exact congrArg Selection.mk hids

/-! ## Used once -/

theorem toggleAll_of_all (h : s.mark shown = .all) : s.toggleAll shown = s.removeAll shown := by
  obtain ⟨hne, hall⟩ := mark_eq_all_iff.mp h
  have hempty : ¬ shown.isEmpty = true := by simpa using hne
  rw [toggleAll, if_neg hempty, if_pos (List.all_eq_true.mpr hall)]

theorem toggleAll_of_ne_all (h : s.mark shown ≠ .all) : s.toggleAll shown = s.insertAll shown := by
  by_cases hnil : shown = []
  · subst hnil
    rfl
  · have hempty : ¬ shown.isEmpty = true := by simpa using hnil
    have hnot : ¬ shown.all s.has = true := by
      intro hall
      exact h (mark_eq_all_iff.mpr ⟨hnil, List.all_eq_true.mp hall⟩)
    rw [toggleAll, if_neg hempty, if_neg hnot]

theorem has_removeAll_of_mem {id : TaskId} (h : id ∈ shown) :
    (s.removeAll shown).has id = false := by
  simp [has_removeAll, h]

theorem has_removeAll_of_not_mem {id : TaskId} (h : id ∉ shown) :
    (s.removeAll shown).has id = s.has id := by
  simp [has_removeAll, h]

theorem has_insertAll_of_mem {id : TaskId} (h : id ∈ shown) :
    (s.insertAll shown).has id = true := by
  simp [has_insertAll, h]

theorem has_insertAll_of_not_mem {id : TaskId} (h : id ∉ shown) :
    (s.insertAll shown).has id = s.has id := by
  simp [has_insertAll, h]

/-- Tasks that are not shown stay as they are. -/
theorem has_toggleAll_of_not_mem {id : TaskId} (h : id ∉ shown) :
    (s.toggleAll shown).has id = s.has id := by
  by_cases hall : s.mark shown = .all
  · rw [toggleAll_of_all hall, has_removeAll_of_not_mem h]
  · rw [toggleAll_of_ne_all hall, has_insertAll_of_not_mem h]

theorem mark_toggleAll_of_all (h : s.mark shown = .all) :
    (s.toggleAll shown).mark shown = .none := by
  rw [toggleAll_of_all h, mark_eq_none_iff]
  intro id hid
  exact has_removeAll_of_mem hid

theorem mark_toggleAll_of_ne_all (h : s.mark shown ≠ .all) (hne : shown ≠ []) :
    (s.toggleAll shown).mark shown = .all := by
  rw [toggleAll_of_ne_all h, mark_eq_all_iff]
  exact ⟨hne, fun id hid => has_insertAll_of_mem hid⟩

/-! ## Used twice -/

/-- From a group that is all ticked, the second use takes back the first one. -/
theorem has_toggleAll_twice_of_all (h : s.mark shown = .all) (id : TaskId) :
    ((s.toggleAll shown).toggleAll shown).has id = s.has id := by
  have hnone : (s.toggleAll shown).mark shown ≠ .all := by
    rw [mark_toggleAll_of_all h]
    nofun
  by_cases hid : id ∈ shown
  · rw [toggleAll_of_ne_all hnone, has_insertAll_of_mem hid]
    exact ((mark_eq_all_iff.mp h).2 id hid).symm
  · rw [has_toggleAll_of_not_mem hid, has_toggleAll_of_not_mem hid]

/-- From any other group, the second use unticks what the first one has ticked. -/
theorem has_toggleAll_twice_of_ne_all (h : s.mark shown ≠ .all) {id : TaskId} (hid : id ∈ shown) :
    ((s.toggleAll shown).toggleAll shown).has id = false := by
  have hall : (s.toggleAll shown).mark shown = .all :=
    mark_toggleAll_of_ne_all h (List.ne_nil_of_mem hid)
  rw [toggleAll_of_all hall, has_removeAll_of_mem hid]

theorem Ordered.toggleAll_twice (hs : s.Ordered) (h : s.mark shown = .all) :
    (s.toggleAll shown).toggleAll shown = s :=
  ((hs.toggleAll shown).toggleAll shown).ext hs (has_toggleAll_twice_of_all h)

/-- Whatever is selected and however often a task is shown: the group control leaves alone the tasks
that are not shown, and with none shown it does nothing. From a group that is marked as all ticked
it goes to one of which none is ticked, and back to the same selection when it is used again. From
any other group with a task in it, it goes to one that is all ticked, and using it again takes the
shown tasks out of the selection and no others. Removing some tasks unticks these and no others, and
the tick of one task changes that tick alone. -/
theorem group_follows_mark (s : Selection) (shown : List TaskId) :
    (∀ id ∉ shown, (s.toggleAll shown).has id = s.has id) ∧
      s.toggleAll [] = s ∧
      (s.mark shown = .all →
        (s.toggleAll shown).mark shown = .none ∧
          (∀ id, ((s.toggleAll shown).toggleAll shown).has id = s.has id) ∧
          (s.Ordered → (s.toggleAll shown).toggleAll shown = s)) ∧
      (s.mark shown ≠ .all →
        (shown ≠ [] → (s.toggleAll shown).mark shown = .all) ∧
          (∀ id ∈ shown, ((s.toggleAll shown).toggleAll shown).has id = false) ∧
          ∀ id ∉ shown, ((s.toggleAll shown).toggleAll shown).has id = s.has id) ∧
      (∀ ids, (∀ id ∈ ids, (s.removeAll ids).has id = false) ∧
        ∀ id ∉ ids, (s.removeAll ids).has id = s.has id) ∧
      ∀ id, (s.toggle id).has id = !s.has id ∧
        ∀ other ≠ id, (s.toggle id).has other = s.has other := by
  refine ⟨fun id hid => has_toggleAll_of_not_mem hid, rfl, fun hall => ?_, fun hnot => ?_,
    fun ids => ?_, fun id => ?_⟩
  · exact ⟨mark_toggleAll_of_all hall, has_toggleAll_twice_of_all hall,
      fun hs => hs.toggleAll_twice hall⟩
  · refine ⟨mark_toggleAll_of_ne_all hnot, fun id hid => has_toggleAll_twice_of_ne_all hnot hid,
      fun id hid => ?_⟩
    rw [has_toggleAll_of_not_mem hid, has_toggleAll_of_not_mem hid]
  · exact ⟨fun id hid => has_removeAll_of_mem hid, fun id hid => has_removeAll_of_not_mem hid⟩
  · refine ⟨by rw [has_toggle, if_pos rfl], fun other hother => ?_⟩
    rw [has_toggle, if_neg hother]

/-- A task is shown twice, and one is selected that is not shown. With one of the shown tasks ticked
the control ticks both of them, and the second time it leaves the hidden one alone. From there it
comes back to the same selection. -/
theorem group_follows_mark_with_repeated_task :
    let s : Selection := ⟨["a", "z"]⟩
    let shown := ["a", "b", "a"]
    s.mark shown = .some ∧ (s.toggleAll shown).mark shown = .all ∧
      ((s.toggleAll shown).toggleAll shown).has "a" = false ∧
      ((s.toggleAll shown).toggleAll shown).has "z" = true ∧
      ((s.toggleAll shown).toggleAll shown).toggleAll shown = s.toggleAll shown := by
  intro s shown
  obtain ⟨-, -, -, hnot, -⟩ := group_follows_mark s shown
  obtain ⟨hall, hin, hout⟩ := hnot (by decide)
  have hmark := hall (by decide)
  have hordered : (s.toggleAll shown).Ordered := by
    have hs : s.Ordered := by unfold Ordered; decide
    exact hs.toggleAll shown
  obtain ⟨-, -, hback, -⟩ := group_follows_mark (s.toggleAll shown) shown
  refine ⟨by decide, hmark, hin "a" (by decide), ?_, (hback hmark).2.2 hordered⟩
  exact hout "z" (by decide)

end Selection

namespace ListState

theorem update_selectAllToggled {s : ListState} (hopen : s.disposed = false) :
    (s.update .selectAllToggled).1 = s.toggleShown := by
  simp [update, hopen, react]

/-- In a view with rows the group control turns the mark from all to none, and from anything else to
all. From all, using it again gives back the selection. -/
theorem Reached.mark_of_selectAllToggled {s : ListState} (hs : s.Reached)
    (hopen : s.disposed = false) (hrows : s.view.rows ≠ []) :
    let t := (s.update .selectAllToggled).1
    t.view.mark = (if s.view.mark = .all then .none else .all) ∧
      (s.view.mark = .all → (t.update .selectAllToggled).1.selection = s.selection) := by
  intro t
  have ht : t = s.toggleShown := update_selectAllToggled hopen
  have hmark : s.view.mark = s.selection.mark s.page.ids := hs.marked.mark_eq
  have hafter : t.view.mark = (s.selection.toggleAll s.page.ids).mark s.page.ids := by rw [ht]; rfl
  have hids : s.page.ids ≠ [] := mt List.map_eq_nil_iff.mp hrows
  refine ⟨?_, fun hall => ?_⟩
  · rw [hafter]
    split
    · next hall => exact Selection.mark_toggleAll_of_all (hmark ▸ hall)
    · next hnot => exact Selection.mark_toggleAll_of_ne_all (hmark ▸ hnot) hids
  · have hagain : (t.update .selectAllToggled).1.selection =
        (s.selection.toggleAll s.page.ids).toggleAll s.page.ids := by
      have hopen' : s.toggleShown.disposed = false := hopen
      rw [ht, update_selectAllToggled hopen']
      simp only [toggleShown, remark, touch, ShownPage.ids_remark]
    rw [hagain]
    exact hs.ordered.toggleAll_twice (hmark ▸ hall)

end ListState

end TaskDesk
