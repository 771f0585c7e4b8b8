import TaskDesk.Proofs.View.Run

/-!
# What a message asks for

Some effects are calls of the backend, and whoever carries them out has to wait for them. A
message asks for at most one call, and for that one last.

## Main definitions

- `Effect.isCall` — an effect that is a call of the backend
- `ListState.Demands` — the four things that a message can ask for

## Main results

- `ListState.demands_react` — every message asks for one of them
- `ListState.isCall_of_mem_dropLast_update` — a call comes last
-/

namespace TaskDesk

/-- An effect that is a call of the backend. -/
def Effect.isCall : Effect → Bool
  | fetchPage _ | batchDelete _ | clearTasks _ _ => true
  | startPolling | stopPolling | notify _ _ => false

theorem Effect.isCall_of_mem_switch {b c : Bool} {e : Effect} (h : e ∈ switch b c) :
    e.isCall = false := by
  cases b <;> cases c <;> simp only [switch, List.mem_singleton, List.not_mem_nil] at h <;>
    rw [h] <;> rfl

namespace ListState

/-- What a message can ask for: no call, a page, the end of the ticked tasks, or the end of all
tasks that the filters show. -/
inductive Demands (s : ListState) : Message → List Effect → Prop
  | nothing {m : Message} {effects : List Effect} (h : ∀ e ∈ effects, e.isCall = false) :
      Demands s m effects
  | page {m : Message} (notices : List Effect) {query : ListQuery}
      (h : ∀ e ∈ notices, e.isCall = false) : Demands s m (notices ++ [.fetchPage query])
  | deletion (h : s.selection.ids ≠ []) :
      Demands s .batchDeleteRequested [.batchDelete s.selection.ids]
  | clearing : Demands s .clearTasksRequested [.clearTasks s.query.kind s.query.status]

theorem demands_nil (s : ListState) (m : Message) : s.Demands m [] :=
  .nothing (List.forall_mem_nil _)

theorem demands_fetch (s t : ListState) (m : Message) : s.Demands m t.fetch.2 :=
  .page [] (List.forall_mem_nil _)

theorem demands_announce (s t : ListState) (m : Message) (text : String) :
    s.Demands m (t.announce text).2 :=
  .page [.success text] (List.forall_mem_singleton.mpr rfl)

theorem demands_receive (s : ListState) (query : ListQuery) (snapshot : Snapshot) :
    s.Demands (.pageLoaded query snapshot) (s.receive query snapshot).2 := by
  unfold receive
  split
  · simp only
    split
    · exact demands_fetch _ _ _
    · rw [settlePolling_eq]
      exact .nothing fun e he => Effect.isCall_of_mem_switch he
  · exact demands_nil _ _

theorem demands_goTo (s : ListState) (m : Message) (page : Nat) : s.Demands m (s.goTo page).2 := by
  unfold goTo
  split
  · exact demands_fetch _ _ _
  · exact demands_nil _ _

theorem demands_resize (s : ListState) (m : Message) (size : Nat) :
    s.Demands m (s.resize size).2 := by
  unfold resize
  split
  · exact demands_nil _ _
  · simp only
    split
    · exact demands_fetch _ _ _
    · exact demands_nil _ _

/-- A message asks for at most one call, and for that one last. -/
theorem demands_react (s : ListState) (m : Message) : s.Demands m (s.react m).2 := by
  cases m with
  | pageLoaded query snapshot => exact s.demands_receive query snapshot
  | pageSizeChanged size => exact s.demands_resize _ size
  | pageChanged delta =>
    simp only [react]
    split
    · exact s.demands_goTo _ _
    · exact demands_nil _ _
  | refreshRequested | statusFilterChanged | kindFilterChanged => exact demands_fetch _ _ _
  | selectionToggled | selectAllToggled | selectionCleared => exact demands_nil _ _
  | batchDeleteRequested =>
    simp only [react]
    split
    · exact demands_nil _ _
    · next hne => exact .deletion (by simpa [Selection.isEmpty] using hne)
  | batchDeleted | tasksCleared => exact demands_announce _ _ _ _
  | clearTasksRequested => exact .clearing
  | loadFailed | actionFailed => exact .nothing (List.forall_mem_singleton.mpr rfl)
  | authInvalid =>
    rw [react, stopPolling_eq]
    refine .nothing (List.forall_mem_append.mpr ⟨?_, List.forall_mem_singleton.mpr rfl⟩)
    exact fun e he => Effect.isCall_of_mem_switch he
  | disposed =>
    rw [react, stopPolling_eq]
    exact .nothing fun e he => Effect.isCall_of_mem_switch he

/-- Nothing is asked for behind a call. -/
theorem Demands.isCall_of_mem_dropLast {s : ListState} {m : Message} {effects : List Effect}
    (h : s.Demands m effects) {e : Effect} (he : e ∈ effects.dropLast) : e.isCall = false := by
  cases h with
  | nothing h => exact h e (List.dropLast_subset _ he)
  | page notices h =>
    rw [List.dropLast_concat] at he
    exact h e he
  | deletion | clearing => cases he

theorem demands_update (s : ListState) (m : Message) : s.Demands m (s.update m).2 := by
  unfold update
  split
  · exact demands_nil _ _
  · exact s.demands_react m

theorem isCall_of_mem_dropLast_update {s : ListState} {m : Message} {e : Effect}
    (he : e ∈ (s.update m).2.dropLast) : e.isCall = false :=
  (s.demands_update m).isCall_of_mem_dropLast he

end ListState

end TaskDesk
