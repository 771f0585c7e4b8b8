import TaskDesk.Proofs.View.Run

/-!
# Polling of a list view

A view turns polling on and off by its effects, and keeps in its state what it has told last. So
the effects of a run turn polling on and off in turn, and a view that learned of a rejected
credential or is closed has turned it off.

## Main definitions

- `Effect.Alternates` — effects that turn polling on and off in turn
- `Effect.pollingAfter` — what polling is for someone who follows the effects
- `ListState.Sound` — polling is off without a credential and after the end

## Main results

- `ListState.polling_in_turn` — the protocol of the effects of a run
-/

namespace TaskDesk

theorem TaskRecord.isActive_iff (task : TaskRecord) :
    task.isActive = true ↔ task.status = .pending ∨ task.status = .running := by
  unfold isActive TaskStatus.isActive
  split <;> simp_all

namespace Effect

/-- The effects turn polling on and off in turn, and lead from one state of it to another. -/
inductive Alternates : (before after : Bool) → List Effect → Prop
  | nil (b : Bool) : Alternates b b []
  | start {b : Bool} {effects : List Effect} (h : Alternates true b effects) :
      Alternates false b (.startPolling :: effects)
  | stop {b : Bool} {effects : List Effect} (h : Alternates false b effects) :
      Alternates true b (.stopPolling :: effects)

theorem alternates_switch (b c : Bool) : Alternates b c (switch b c) := by
  cases b <;> cases c
  · exact .nil false
  · exact .start (.nil true)
  · exact .stop (.nil false)
  · exact .nil true

theorem Alternates.append {b c d : Bool} {effects others : List Effect}
    (h : Alternates b c effects) (hothers : Alternates c d others) :
    Alternates b d (effects ++ others) := by
  induction h with
  | nil => exact hothers
  | start _ ih => exact .start (ih hothers)
  | stop _ ih => exact .stop (ih hothers)

/-- What stands at each place follows from what polling was before. -/
theorem Alternates.eq_of_getElem? {b c : Bool} {effects : List Effect}
    (h : Alternates b c effects) {i : Nat} {e : Effect} (he : effects[i]? = some e) :
    e = if (i % 2 = 0) = (b = false) then .startPolling else .stopPolling := by
  -- Behind an effect every place is one further, and polling is turned over.
  induction h generalizing i with
  | nil => cases he
  | start _ ih =>
    cases i with
    | zero => simpa using he.symm
    | succ i => rw [ih he]; grind
  | stop _ ih =>
    cases i with
    | zero => simpa using he.symm
    | succ i => rw [ih he]; grind

/-- Polling is in the end what the last effect says, and else what it was before. -/
theorem Alternates.after_iff {b c : Bool} {effects : List Effect} (h : Alternates b c effects) :
    c = true ↔ effects.getLast? = some .startPolling ∨ (effects = [] ∧ b = true) := by
  induction h with
  | nil => simp
  | @start _ effects _ ih => rw [ih]; cases effects <;> simp
  | @stop _ effects _ ih => rw [ih]; cases effects <;> simp

/-- What polling is after an effect. -/
def pollingAfter (polling : Bool) : Effect → Bool
  | startPolling => true
  | stopPolling => false
  | _ => polling

theorem pollingAfter_of_not {e : Effect} (h : e.isPolling = false) (b : Bool) :
    pollingAfter b e = b := by
  cases e with
  | startPolling | stopPolling => cases h
  | _ => rfl

theorem foldl_pollingAfter_of_not {effects : List Effect}
    (h : ∀ e ∈ effects, e.isPolling = false) (b : Bool) : effects.foldl pollingAfter b = b := by
  induction effects with
  | nil => rfl
  | cons e effects ih =>
    obtain ⟨he, heffects⟩ := List.forall_mem_cons.mp h
    rw [List.foldl_cons, pollingAfter_of_not he, ih heffects]

/-- Only the effects that turn polling on or off matter for it. -/
theorem foldl_pollingAfter_filter (effects : List Effect) (b : Bool) :
    (effects.filter isPolling).foldl pollingAfter b = effects.foldl pollingAfter b := by
  induction effects generalizing b with
  | nil => rfl
  | cons e effects ih =>
    cases he : e.isPolling with
    | true => rw [List.filter_cons_of_pos he, List.foldl_cons, List.foldl_cons, ih]
    | false =>
      rw [List.filter_cons_of_neg (by simp [he]), List.foldl_cons, pollingAfter_of_not he, ih]

theorem foldl_pollingAfter_switch (b c : Bool) : (switch b c).foldl pollingAfter b = c := by
  cases b <;> cases c <;> rfl

end Effect

namespace ListState

/-- While polling is on, the credential counts as valid and the view is open. -/
structure Sound (s : ListState) : Prop where
  authInvalid_eq : s.polling = true → s.authInvalid = false
  disposed_eq : s.polling = true → s.disposed = false

/-! ## One message -/

/-- Polling changes by the effects of a message, and by nothing else. -/
theorem Reaction.filter_isPolling {s t : ListState} {m : Message} {effects : List Effect}
    (h : s.Reaction m t effects) :
    effects.filter Effect.isPolling = Effect.switch s.polling t.polling := by
  cases h with
  | marked _ _ _ heffects =>
    rw [Effect.filter_isPolling_of_plain heffects]
    exact (Effect.switch_self _).symm
  | turned => exact (Effect.switch_self _).symm
  | fetched _ _ _ _ hasks =>
    have hnone : effects.filter Effect.isPolling = [] := by
      simpa using fun e he => hasks.isPolling he
    rw [hnone]
    exact (Effect.switch_self _).symm
  | settled => exact Effect.filter_isPolling_switch _ _
  | corrected =>
    rw [load_polling]
    exact (Effect.switch_self _).symm
  | failed => exact (Effect.switch_self _).symm
  | rejected =>
    rw [List.filter_append, Effect.filter_isPolling_switch]
    exact List.append_nil _
  | closed => exact Effect.filter_isPolling_switch _ _

/-- A message turns polling on or off with its first effect or not at all. -/
theorem Reaction.isPolling_of_mem_tail {s t : ListState} {m : Message} {effects : List Effect}
    (h : s.Reaction m t effects) {e : Effect} (he : e ∈ effects.tail) : e.isPolling = false := by
  have hswitch (b c : Bool) : (Effect.switch b c).tail = [] := by cases b <;> cases c <;> rfl
  cases h with
  | marked _ _ _ heffects => exact (heffects e (List.mem_of_mem_tail he)).1
  | fetched _ _ _ _ hasks => exact hasks.isPolling (List.mem_of_mem_tail he)
  | settled | closed => rw [hswitch] at he; cases he
  | turned | corrected | failed => cases he
  | rejected =>
    cases hp : s.polling with
    | true =>
      rw [hp] at he
      rw [List.mem_singleton.mp he]; rfl
    | false =>
      rw [hp] at he
      cases he

theorem Reaction.sound {s t : ListState} {m : Message} {effects : List Effect}
    (h : s.Reaction m t effects) (hs : s.Sound) (hopen : s.disposed = false) : t.Sound := by
  cases h with
  | marked | turned | fetched | failed => exact ⟨hs.authInvalid_eq, hs.disposed_eq⟩
  | settled | corrected =>
    refine ⟨fun _ => load_authInvalid _ _, fun _ => ?_⟩
    exact (load_disposed _ _).trans hopen
  | rejected | closed => exact ⟨nofun, nofun⟩

theorem filter_isPolling_update (s : ListState) (m : Message) :
    (s.update m).2.filter Effect.isPolling = Effect.switch s.polling (s.update m).1.polling := by
  cases h : s.disposed with
  | true => rw [update_of_disposed h, Effect.switch_self]; rfl
  | false => exact (reaction_update h m).filter_isPolling

theorem isPolling_of_mem_tail_update {s : ListState} {m : Message} {e : Effect}
    (he : e ∈ (s.update m).2.tail) : e.isPolling = false := by
  cases h : s.disposed with
  | true => rw [update_of_disposed h] at he; cases he
  | false => exact (reaction_update h m).isPolling_of_mem_tail he

/-- Whoever follows the effects of a message has polling where the state has it. -/
theorem foldl_pollingAfter_update (s : ListState) (m : Message) :
    (s.update m).2.foldl Effect.pollingAfter s.polling = (s.update m).1.polling := by
  rw [← Effect.foldl_pollingAfter_filter, filter_isPolling_update,
    Effect.foldl_pollingAfter_switch]

theorem Sound.update {s : ListState} (hs : s.Sound) (m : Message) : (s.update m).1.Sound := by
  cases h : s.disposed with
  | true => rwa [update_of_disposed h]
  | false => exact (reaction_update h m).sound hs h

/-- The end of a view turns polling off. -/
theorem Sound.polling_update_disposed {s : ListState} (hs : s.Sound) :
    (s.update .disposed).1.polling = false := by
  have hclosed := (disposed_update_iff s .disposed).mpr (.inr rfl)
  simpa [hclosed] using (hs.update .disposed).disposed_eq

/-- After a page that was not past the end, polling is on exactly if one of its tasks is active. -/
theorem Reaction.settles {s t : ListState} {snapshot : Snapshot} {effects : List Effect}
    (h : s.Reaction (.pageLoaded s.query snapshot) t effects)
    (hend : ¬ s.IsPastEnd snapshot.total) :
    t.tasks = snapshot.tasks ∧ t.polling = snapshot.tasks.any TaskRecord.isActive := by
  cases h with
  | marked hm | turned hm | fetched hm => exact absurd rfl hm
  | settled => exact ⟨load_tasks _ _, rfl⟩
  | corrected h => exact absurd h hend

/-! ## Whole runs -/

theorem alternates_runEffects (s : ListState) (ms : List Message) :
    Effect.Alternates s.polling (s.run ms).polling
      ((s.runEffects ms).filter Effect.isPolling) := by
  induction ms generalizing s with
  | nil => exact .nil _
  | cons m ms ih =>
    rw [run_cons, runEffects, List.filter_append, filter_isPolling_update]
    exact (Effect.alternates_switch _ _).append (ih _)

theorem Opened.polling_eq {s : ListState} (h : s.Opened) : s.polling = false := by
  obtain ⟨mode, query, rfl⟩ := h.exists_ofQuery
  rfl

theorem Opened.sound {s : ListState} (h : s.Opened) : s.Sound := by
  have hoff : s.polling ≠ true := by simp [h.polling_eq]
  exact ⟨fun hon => absurd hon hoff, fun hon => absurd hon hoff⟩

theorem Sound.run {s : ListState} (hs : s.Sound) (ms : List Message) : (s.run ms).Sound :=
  run_induction (fun _ m ht => ht.update m) hs ms

/-- Every run of a view that is opened turns polling on and off in turn, on first, and the state
says what the last effect of this kind did. A page that was not past the end leaves polling on
exactly if one of its tasks is pending or running. Polling is never on without a valid credential
or after the view is closed, and a closed view does nothing. -/
theorem polling_in_turn {s : ListState} (hs : s.Opened) (ms : List Message) :
    let t := s.run ms
    let effects := (s.runEffects ms).filter Effect.isPolling
    (∀ i e, effects[i]? = some e → e = if i % 2 = 0 then .startPolling else .stopPolling) ∧
      (t.polling = true ↔ effects.getLast? = some .startPolling) ∧
      (t.disposed = false → ∀ snapshot, ¬ t.IsPastEnd snapshot.total →
        let u := (t.update (.pageLoaded t.query snapshot)).1
        u.tasks = snapshot.tasks ∧
          (u.polling = true ↔ ∃ task ∈ u.tasks, task.status = .pending ∨ task.status = .running)) ∧
      ¬ (t.polling = true ∧ t.authInvalid = true) ∧ ¬ (t.polling = true ∧ t.disposed = true) ∧
      (.disposed ∈ ms → ∀ m, t.update m = (t, [])) := by
  intro t effects
  have hturn : Effect.Alternates false t.polling effects := by
    have h := s.alternates_runEffects ms
    rwa [hs.polling_eq] at h
  have hsound : t.Sound := hs.sound.run ms
  refine ⟨fun i e he => ?_, ?_, fun hopen snapshot hend => ?_, ?_, ?_, fun hclosed m => ?_⟩
  · simpa using hturn.eq_of_getElem? he
  · simpa using hturn.after_iff
  · obtain ⟨htasks, hpolling⟩ := (reaction_update hopen _).settles hend
    refine ⟨htasks, ?_⟩
    rw [hpolling, htasks]
    simp only [List.any_eq_true, TaskRecord.isActive_iff]
  · rintro ⟨hon, hinvalid⟩
    rw [hsound.authInvalid_eq hon] at hinvalid
    cases hinvalid
  · rintro ⟨hon, hclosed⟩
    rw [hsound.disposed_eq hon] at hclosed
    cases hclosed
  · exact update_of_disposed ((hs.disposed_run_iff ms).mpr hclosed) m

/-- A rejected credential ends polling; the next page with a running task starts it again. -/
theorem polling_in_turn_after_rejection :
    let task : TaskRecord :=
      { id := "t", kind := .video, status := .running, progress := 0, payload := .null,
        result := none, error := none, createdAt := 0 }
    let reply : Message := .pageLoaded {} ⟨[task], 1⟩
    let ms : List Message := [.refreshRequested, reply, .authInvalid, reply]
    (initial.runEffects ms).filter Effect.isPolling =
        [.startPolling, .stopPolling, .startPolling] ∧
      (initial.run ms).polling = true := by
  intro task reply ms
  have heffects : (initial.runEffects ms).filter Effect.isPolling =
      [.startPolling, .stopPolling, .startPolling] := by decide
  refine ⟨heffects, (polling_in_turn .initial ms).2.1.mpr ?_⟩
  rw [heffects]; rfl

end ListState

end TaskDesk
