import TaskDesk.Proofs.View.Announcing
import TaskDesk.Proofs.View.Reported

/-!
# The ticks that are shown

The rows of a view carry their ticks, and the group control carries its mark. Both are kept with the
page, and the selection can change without the page and the page without the selection. Every
message brings them together again: it marks the rows anew, makes them anew, or changes neither. So
to mark the page once more would never change it.

## Main definitions

- `ListState.Marked` — the ticks and the mark are those of the selection

## Main results

- `ListState.Reached.marked` — that holds of every state of a view
- `ListState.marks_right` — what the ticks, the mark and the count say
-/

namespace TaskDesk

@[simp] theorem ShownPage.remark_remark (p : ShownPage) (old new : Selection) :
    (p.remark old).remark new = p.remark new := by
  have hrows : (p.remark old).rows.map (fun r => { r with selected := new.has r.id }) =
      p.rows.map fun r => { r with selected := new.has r.id } := by
    simp [remark]
  rw [remark, hrows, ids_remark]
  rfl

@[simp] theorem ShownPage.remark_of (tasks : List TaskRecord) (selection : Selection)
    (cursor : PageCursor) :
    (of tasks selection cursor).remark selection = of tasks selection cursor := by
  simp [remark, of, ids, TaskRow.of]

namespace ListState

/-- The ticks of the rows and the mark of the group control are those of the selection. -/
def Marked (s : ListState) : Prop :=
  s.page.remark s.selection = s.page

theorem Marked.of_eq {s t : ListState} (h : s.Marked) (hpage : t.page = s.page)
    (hselection : t.selection = s.selection) : t.Marked := by
  unfold Marked at h ⊢
  rw [hpage, hselection]
  exact h

theorem Draws.marked {s t : ListState} {m : Message} (h : s.Draws m t) (hs : s.Marked) :
    t.Marked := by
  cases h with
  | kept _ _ hpage hselection | strayed _ hpage hselection => exact hs.of_eq hpage hselection
  | remarked _ _ hpage =>
    unfold Marked
    rw [hpage, ShownPage.remark_remark]
  | rebuilt _ hpage =>
    unfold Marked
    rw [hpage, ShownPage.remark_of]

theorem Marked.update {s : ListState} (hs : s.Marked) (m : Message) : (s.update m).1.Marked := by
  cases hopen : s.disposed with
  | true => rwa [update_of_disposed hopen]
  | false => exact (draws_update hopen m).marked hs

theorem Opened.marked {s : ListState} (h : s.Opened) : s.Marked := by
  obtain ⟨mode, query, rfl⟩ := h.exists_ofQuery
  rfl

theorem Reached.marked {s : ListState} (h : s.Reached) : s.Marked := by
  induction h with
  | opened h => exact h.marked
  | update _ m ih => exact ih.update m
  | consumeDirty _ ih => exact ih.of_eq rfl rfl

theorem Reached.ordered {s : ListState} (h : s.Reached) : s.selection.Ordered := by
  induction h with
  | opened h => exact h.grounded.ordered
  | @update s _ m ih =>
    cases hopen : s.disposed with
    | true => rwa [update_of_disposed hopen]
    | false =>
      rw [selection_update hopen]
      exact ordered_selectionAfter ih m
  | consumeDirty _ ih => exact ih

theorem Marked.selected_eq {s : ListState} (h : s.Marked) {row : TaskRow}
    (hrow : row ∈ s.view.rows) : row.selected = s.selection.has row.id := by
  have hrows : s.page.rows.map (fun r => { r with selected := s.selection.has r.id }) =
      s.page.rows := congrArg ShownPage.rows h
  have hrow : row ∈ s.page.rows := hrow
  rw [← hrows] at hrow
  obtain ⟨r, -, rfl⟩ := List.mem_map.mp hrow
  rfl

theorem Marked.mark_eq {s : ListState} (h : s.Marked) :
    s.view.mark = s.selection.mark (s.view.rows.map TaskRow.id) :=
  (congrArg ShownPage.mark h).symm

/-- A task with that identifier, which is done. -/
private def doneTask (id : TaskId) : TaskRecord :=
  { id, kind := .video, status := .completed, progress := 100, payload := .null, result := none,
    error := none, createdAt := 0 }

/-- In every state of a view, whoever pages it: each row is ticked exactly if its task is selected.
The group control shows all exactly if there are rows and all their tasks are selected, none exactly
if no task of a row is selected, and some if one is and one is not. The number of selected tasks
counts them all, whether they are on the page or not. -/
theorem marks_right {s : ListState} (hs : s.Reached) :
    (∀ row ∈ s.view.rows, row.selected = s.selection.has row.id) ∧
      (s.view.mark = .all ↔
        s.view.rows ≠ [] ∧ ∀ row ∈ s.view.rows, s.selection.has row.id = true) ∧
      (s.view.mark = .none ↔ ∀ row ∈ s.view.rows, s.selection.has row.id = false) ∧
      (s.view.mark = .some ↔
        (∃ row ∈ s.view.rows, s.selection.has row.id = true) ∧
          ∃ row ∈ s.view.rows, s.selection.has row.id = false) ∧
      s.view.selectedCount = {id | s.selection.has id = true}.ncard := by
  refine ⟨fun row hrow => hs.marked.selected_eq hrow, ?_, ?_, ?_, hs.ordered.size_eq_ncard⟩
  · rw [hs.marked.mark_eq, Selection.mark_eq_all_iff, List.forall_mem_map, Ne, List.map_eq_nil_iff]
  · rw [hs.marked.mark_eq, Selection.mark_eq_none_iff, List.forall_mem_map]
  · rw [hs.marked.mark_eq, Selection.mark_eq_some_iff]
    simp only [List.mem_map, exists_exists_and_eq_and]

/-- A task is ticked and leaves the page. Of the tasks that come instead, one comes twice and is
ticked. -/
theorem marks_right_with_repeated_task :
    ∃ s : ListState, s.Reached ∧
      s.view.rows.map (fun row => (row.id, row.selected)) =
        [("a", true), ("a", true), ("b", false)] ∧
      s.view.mark = .some ∧ {id | s.selection.has id = true}.ncard = 2 := by
  have hfirst := ((Reached.opened .initial).update
    (.pageLoaded {} ⟨[doneTask "c"], 1⟩)).update (.selectionToggled "c")
  have hlast := ((hfirst.update
    (.pageLoaded {} ⟨[doneTask "a", doneTask "a", doneTask "b"], 3⟩)).update
    (.selectionToggled "a")).consumeDirty
  obtain ⟨-, -, -, hsome, hcount⟩ := marks_right hlast
  refine ⟨_, hlast, by decide, hsome.mpr ?_, ?_⟩
  · decide
  · exact hcount.symm.trans (by decide)

end ListState

end TaskDesk
