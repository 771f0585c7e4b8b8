import TaskDesk.Proofs.View.Demand
import TaskDesk.Proofs.View.Drawing
import TaskDesk.Proofs.View.Reply
import TaskDesk.Proofs.View.Selection

/-!
# Only what the backend reported can be ticked

An operator ticks and deletes tasks by their identifiers. A view knows identifiers from replies
only: whatever it keeps, shows, has ticked or asks to delete was in a reply that it took in, also
if the page, the filters or the selection have changed since then.

## Main definitions

- `Message.Ticks` — messages that change the selection
- `ListState.Reported` — identifiers that a reply has brought in a run
- `ListState.Grounded` — the invariant: all identifiers of a view are among those it has seen

## Main results

- `ListState.only_reported_ticked` — what is kept, shown, ticked and deleted was reported
- `ListState.deleted_ids_stay_after_end` — a closed view no longer forgets deleted tasks
-/

namespace TaskDesk

/-- The message changes the selection. -/
def Message.Ticks : Message → Prop
  | .selectionToggled _ | .selectAllToggled | .selectionCleared => True
  | .batchDeleted _ _ | .tasksCleared _ => True
  | _ => False

namespace ListState

/-- In a run a reply that counts has brought the identifier. -/
def Reported (s : ListState) (ms : List Message) (id : TaskId) : Prop :=
  ∃ i snapshot, s.Counts ms i snapshot ∧ ∃ task ∈ snapshot.tasks, task.id = id

/-- The selection that a message leads to. -/
def selectionAfter (s : ListState) : Message → Selection
  | .selectionToggled id => if s.seen.contains id then s.selection.toggle id else s.selection
  | .selectAllToggled => s.selection.toggleAll s.page.ids
  | .selectionCleared | .tasksCleared _ => {}
  | .batchDeleted ids _ => s.selection.removeAll ids
  | _ => s.selection

/-- All identifiers of a view are among those that it has seen. -/
structure Grounded (s : ListState) : Prop where
  tasks : ∀ task ∈ s.tasks, task.id ∈ s.seen
  rows : ∀ id ∈ s.page.ids, id ∈ s.seen
  ticked : ∀ id, s.selection.has id = true → id ∈ s.seen
  ordered : s.selection.Ordered

/-! ## One message -/

theorem selectionAfter_of_not_ticks (s : ListState) {m : Message} (h : ¬ m.Ticks) :
    s.selectionAfter m = s.selection := by
  cases m with
  | selectionToggled | selectAllToggled | selectionCleared => exact absurd trivial h
  | batchDeleted | tasksCleared => exact absurd trivial h
  | _ => rfl

theorem selection_receive (s : ListState) (query : ListQuery) (snapshot : Snapshot) :
    (s.receive query snapshot).1.selection = s.selection := by
  unfold receive
  split
  · simp only
    split
    · rw [fetch_eq]
      exact s.load_selection snapshot
    · rw [settlePolling_eq]
      exact s.load_selection snapshot
  · rfl

theorem selection_resize (s : ListState) (size : Nat) :
    (s.resize size).1.selection = s.selection := by
  unfold resize
  split
  · rfl
  · cases hmode : s.mode with
    | server =>
      simp only [setPageSize, hmode]
      rw [fetch_eq]
    | client =>
      simp only [setPageSize, hmode]
      rfl

theorem selection_react (s : ListState) (m : Message) :
    (s.react m).1.selection = s.selectionAfter m := by
  cases m with
  | pageLoaded query snapshot => exact s.selection_receive query snapshot
  | pageSizeChanged size => exact s.selection_resize size
  | pageChanged delta =>
    simp only [react]
    split
    · unfold goTo
      split
      · rw [fetch_eq]; rfl
      · rfl
    · rfl
  | selectionToggled id =>
    simp only [react, toggleTask, selectionAfter]
    split <;> rfl
  | loadFailed => rw [react, setLoading_eq]; rfl
  | authInvalid | disposed => rw [react, stopPolling_eq]; rfl
  | refreshRequested | statusFilterChanged | kindFilterChanged => rw [react, fetch_eq]; rfl
  | batchDeleted | tasksCleared => simp only [react, announce, fetch_eq]; rfl
  | _ => rfl

theorem selection_update {s : ListState} (h : s.disposed = false) (m : Message) :
    (s.update m).1.selection = s.selectionAfter m := by
  have hopen : s.update m = s.react m := by simp [update, h]
  rw [hopen]
  exact s.selection_react m

/-- What is ticked after a message was ticked before, or was shown, or has been seen. -/
theorem seen_of_has_selectionAfter {s : ListState} (hs : s.Grounded) {m : Message} {id : TaskId}
    (h : (s.selectionAfter m).has id = true) : id ∈ s.seen := by
  cases m with
  | selectionToggled toggled =>
    simp only [selectionAfter] at h
    split at h
    · next hseen =>
      rw [Selection.has_toggle] at h
      split at h
      · next heq => exact heq ▸ List.contains_iff_mem.mp hseen
      · exact hs.ticked id h
    · exact hs.ticked id h
  | selectAllToggled => exact (Selection.has_of_has_toggleAll h).elim (hs.ticked id) (hs.rows id)
  | selectionCleared | tasksCleared => cases h
  | batchDeleted ids =>
    rw [selectionAfter, Selection.has_removeAll, Bool.and_eq_true] at h
    exact hs.ticked id h.1
  | _ => exact hs.ticked id h

theorem ordered_selectionAfter {s : ListState} (hs : s.selection.Ordered) (m : Message) :
    (s.selectionAfter m).Ordered := by
  cases m with
  | selectionToggled id =>
    simp only [selectionAfter]
    split
    · exact hs.toggle id
    · exact hs
  | selectAllToggled => exact hs.toggleAll _
  | selectionCleared | tasksCleared => exact Selection.ordered_empty
  | batchDeleted ids => exact hs.removeAll ids
  | _ => exact hs

@[simp] theorem load_seen (s : ListState) (snapshot : Snapshot) :
    (s.load snapshot).2.seen = s.seen ++ snapshot.tasks.map TaskRecord.id := by
  simp only [load]
  split <;> rfl

/-- A view sees identifiers in replies for its query, and keeps the tasks of the last one. -/
theorem Reaction.seen_eq {s t : ListState} {m : Message} {effects : List Effect}
    (h : s.Reaction m t effects) :
    (t.seen = s.seen ∧ t.tasks = s.tasks) ∨
      ∃ snapshot, m = .pageLoaded s.query snapshot ∧
        t.seen = s.seen ++ snapshot.tasks.map TaskRecord.id ∧ t.tasks = snapshot.tasks := by
  cases h with
  | settled | corrected => exact .inr ⟨_, rfl, load_seen _ _, load_tasks _ _⟩
  | _ => exact .inl ⟨rfl, rfl⟩

theorem mem_tasks_of_mem_visibleTasks {s : ListState} {task : TaskRecord}
    (h : task ∈ s.visibleTasks) : task ∈ s.tasks := by
  unfold visibleTasks at h
  split at h
  · exact h
  · exact List.mem_of_mem_drop (List.mem_of_mem_take h)

/-- Every row that a message shows was shown before or belongs to a task that is kept. -/
theorem Draws.mem_ids {s t : ListState} {m : Message} (h : s.Draws m t) {id : TaskId}
    (hid : id ∈ t.page.ids) : id ∈ s.page.ids ∨ ∃ task ∈ t.tasks, task.id = id := by
  cases h with
  | kept _ _ hpage | strayed _ hpage =>
    rw [hpage] at hid
    exact .inl hid
  | remarked _ _ hpage =>
    rw [hpage, ShownPage.ids_remark] at hid
    exact .inl hid
  | rebuilt _ hpage =>
    rw [hpage, ShownPage.ids_of] at hid
    obtain ⟨task, hmem, rfl⟩ := List.mem_map.mp hid
    exact .inr ⟨task, mem_tasks_of_mem_visibleTasks hmem, rfl⟩

theorem Grounded.update {s : ListState} (hs : s.Grounded) (m : Message) :
    (s.update m).1.Grounded := by
  cases hopen : s.disposed with
  | true => rwa [update_of_disposed hopen]
  | false =>
    have hseen := (reaction_update hopen m).seen_eq
    have hgrows : ∀ id ∈ s.seen, id ∈ (s.update m).1.seen := by
      rcases hseen with ⟨hseen, -⟩ | ⟨snapshot, -, hseen, -⟩ <;> rw [hseen]
      · exact fun id hid => hid
      · exact fun id hid => List.mem_append_left _ hid
    have htasks : ∀ task ∈ (s.update m).1.tasks, task.id ∈ (s.update m).1.seen := by
      intro task hmem
      rcases hseen with ⟨-, htasks⟩ | ⟨snapshot, -, hseen, htasks⟩
      · rw [htasks] at hmem
        exact hgrows _ (hs.tasks task hmem)
      · rw [htasks] at hmem
        rw [hseen]
        exact List.mem_append_right _ (List.mem_map_of_mem hmem)
    refine ⟨htasks, fun id hid => ?_, fun id hid => ?_, ?_⟩
    · rcases (draws_update hopen m).mem_ids hid with hid | ⟨task, hmem, rfl⟩
      · exact hgrows id (hs.rows id hid)
      · exact htasks task hmem
    · rw [selection_update hopen] at hid
      exact hgrows id (seen_of_has_selectionAfter hs hid)
    · rw [selection_update hopen]
      exact ordered_selectionAfter hs.ordered m

theorem Opened.grounded {s : ListState} (h : s.Opened) : s.Grounded := by
  obtain ⟨mode, query, rfl⟩ := h.exists_ofQuery
  exact ⟨List.forall_mem_nil _, List.forall_mem_nil _, nofun, Selection.ordered_empty⟩

/-- A deletion is asked for with what is ticked, if anything is. -/
theorem Demands.eq_of_batchDelete_mem {s : ListState} {m : Message} {effects : List Effect}
    (h : s.Demands m effects) {ids : List TaskId} (hids : .batchDelete ids ∈ effects) :
    ids = s.selection.ids ∧ ids ≠ [] := by
  cases h with
  | nothing h => cases h _ hids
  | page notices h =>
    rcases List.mem_append.mp hids with hids | hids
    · cases h _ hids
    · cases List.mem_singleton.mp hids
  | deletion hne =>
    obtain rfl := Effect.batchDelete.inj (List.mem_singleton.mp hids)
    exact ⟨rfl, hne⟩
  | clearing => cases List.mem_singleton.mp hids

/-! ## Whole runs -/

theorem Reported.append {s : ListState} {ms : List Message} {id : TaskId}
    (h : s.Reported ms id) (later : List Message) : s.Reported (ms ++ later) id := by
  obtain ⟨i, snapshot, hcounts, hmem⟩ := h
  exact ⟨i, snapshot, (counts_append hcounts.lt_length later snapshot).mpr hcounts, hmem⟩

/-- What a view has seen was reported. -/
theorem Opened.reported_of_mem_seen {s : ListState} (hs : s.Opened) (ms : List Message) :
    ∀ id ∈ (s.run ms).seen, s.Reported ms id := by
  induction ms using List.reverseRecOn with
  | nil =>
    obtain ⟨mode, query, rfl⟩ := hs.exists_ofQuery
    exact List.forall_mem_nil _
  | append_singleton ms m ih =>
    intro id hid
    rw [run_concat] at hid
    cases hd : (s.run ms).disposed with
    | true =>
      rw [update_of_disposed hd] at hid
      exact (ih id hid).append [m]
    | false =>
      rcases (reaction_update hd m).seen_eq with ⟨hseen, -⟩ | ⟨snapshot, hm, hseen, -⟩
      · rw [hseen] at hid
        exact (ih id hid).append [m]
      · rw [hseen] at hid
        rcases List.mem_append.mp hid with hid | hid
        · exact (ih id hid).append [m]
        · have hopen : .disposed ∉ ms := fun h => by
            rw [(hs.disposed_run_iff ms).mpr h] at hd
            cases hd
          exact ⟨ms.length, snapshot, counts_concat_length.mpr ⟨hopen, hm⟩, List.mem_map.mp hid⟩

/-- A task with that identifier, which was cancelled. -/
private def cancelledTask (id : TaskId) : TaskRecord :=
  { id, kind := .image, status := .cancelled, progress := 0, payload := .null, result := none,
    error := none, createdAt := 0 }

/-- Two tasks come, and the operator ticks them. -/
private def bothTicked : List Message :=
  [.pageLoaded {} (.full [cancelledTask "a", cancelledTask "b"]), .selectionToggled "a",
    .selectionToggled "b"]

/-- In every run of a view that is opened: whatever is ticked, shown or kept has been reported. A
deletion is asked for with exactly the ticked tasks, each once and at least one. Only the ticks of
the operator and the ends of tasks change what is ticked. After a deletion exactly the deleted
tasks are no longer ticked; a closed view stays as it is. -/
theorem only_reported_ticked {s : ListState} (hs : s.Opened) (ms : List Message) :
    let t := s.run ms
    (∀ id, t.selection.has id = true ∨ id ∈ t.view.rows.map TaskRow.id ∨
        id ∈ t.tasks.map TaskRecord.id → s.Reported ms id) ∧
      (∀ m ids, .batchDelete ids ∈ (t.update m).2 →
        ids ≠ [] ∧ ids.Nodup ∧ ∀ id, id ∈ ids ↔ t.selection.has id = true) ∧
      (∀ m, ¬ m.Ticks → (t.update m).1.selection = t.selection) ∧
      ∀ ids text,
        let u := (t.update (.batchDeleted ids text)).1
        (.disposed ∉ ms → ∀ id, u.selection.has id = true ↔
          t.selection.has id = true ∧ id ∉ ids) ∧
        (.disposed ∈ ms → u.selection = t.selection) := by
  intro t
  have hgrounded : t.Grounded := run_induction (fun _ m ht => ht.update m) hs.grounded ms
  have hclosed (hm : .disposed ∈ ms) (m : Message) : (t.update m).1 = t := by
    rw [update_of_disposed ((hs.disposed_run_iff ms).mpr hm)]
  have hopen (hm : .disposed ∉ ms) (m : Message) :
      (t.update m).1.selection = t.selectionAfter m := by
    refine selection_update ?_ m
    simpa using mt (hs.disposed_run_iff ms).mp hm
  refine ⟨fun id hid => hs.reported_of_mem_seen ms id ?_, fun m ids hids => ?_, fun m hm => ?_,
    fun ids text => ⟨fun hm id => ?_, fun hm => ?_⟩⟩
  · rcases hid with hid | hid | hid
    · exact hgrounded.ticked id hid
    · exact hgrounded.rows id hid
    · obtain ⟨task, hmem, rfl⟩ := List.mem_map.mp hid
      exact hgrounded.tasks task hmem
  · obtain ⟨rfl, hne⟩ := (t.demands_update m).eq_of_batchDelete_mem hids
    exact ⟨hne, hgrounded.ordered.nodup, fun id => Selection.has_iff_mem.symm⟩
  · by_cases hd : .disposed ∈ ms
    · rw [hclosed hd]
    · rw [hopen hd, selectionAfter_of_not_ticks t hm]
  · rw [hopen hm, selectionAfter, Selection.has_removeAll]
    simp
  · rw [hclosed hm]

/-- The first of two ticked tasks is deleted; the second one stays ticked. -/
theorem only_reported_ticked_after_deletion :
    let u := ((initial.run bothTicked).update (.batchDeleted ["a"] "gone")).1
    initial.Reported bothTicked "b" ∧ u.selection.has "b" = true ∧
      ¬ u.selection.has "a" = true := by
  intro u
  have hticked (id : TaskId) (hid : id = "a" ∨ id = "b") :
      (initial.run bothTicked).selection.has id = true := by
    rcases hid with rfl | rfl <;> decide
  obtain ⟨hreported, -, -, hdeleted⟩ := only_reported_ticked .initial bothTicked
  have hleft := (hdeleted ["a"] "gone").1 (by simp [bothTicked])
  refine ⟨hreported "b" (.inl (hticked "b" (.inr rfl))), ?_, ?_⟩
  · exact (hleft "b").mpr ⟨hticked "b" (.inr rfl), by decide⟩
  · exact fun h => ((hleft "a").mp h).2 (by decide)

/-- After the end of a view a deletion no longer takes the deleted tasks off the selection. -/
theorem deleted_ids_stay_after_end :
    ¬ ∀ (s : ListState) (ms : List Message) (ids : List TaskId) (text : String), s.Opened →
        ∀ id ∈ ids, ((s.run ms).update (.batchDeleted ids text)).1.selection.has id = false := by
  intro hforgets
  have hgone := hforgets initial (bothTicked ++ [.disposed]) ["a"] "gone" .initial "a" (by decide)
  revert hgone
  decide

end ListState

end TaskDesk
