import TaskDesk.Proofs.Session.Timer

/-!
# When a session no longer asks by itself

After a page without active tasks, after a rejected credential and after the end of a session, no
tick of the poller begins until a page with an active task has come, in every order of the
activities. A page that was past the end does not count for that: the session asks for the last
page at once, and leaves it to that page what becomes of polling.

## Main definitions

- `Mark.IsQuiet` — what ends polling
- `Mark.IsBusy` — a page with an active task

## Main results

- `Session.timer_in_step` — the poller agrees with the state, and is silent after a quiet mark
- `Session.not_silent_after_past_end` — a page past the end leaves polling on
-/

namespace TaskDesk

/-- An entry of a list that was made longer by one is the new one or was there before. -/
private theorem eq_or_split_of_concat {α : Type} {xs before after : List α} {x y : α}
    (h : xs ++ [x] = before ++ y :: after) :
    (xs = before ∧ x = y ∧ after = []) ∨ ∃ rest, xs = before ++ y :: rest ∧ after = rest ++ [x] := by
  rcases List.eq_nil_or_concat after with rfl | ⟨rest, z, rfl⟩
  · obtain ⟨hxs, hx⟩ := List.append_inj' h rfl
    exact .inl ⟨hxs, List.singleton_inj.mp hx, rfl⟩
  · rw [List.concat_eq_append, ← List.cons_append, ← List.append_assoc] at h
    obtain ⟨hxs, hx⟩ := List.append_inj' h rfl
    obtain rfl := List.singleton_inj.mp hx
    exact .inr ⟨rest, hxs, List.concat_eq_append⟩

namespace Mark

/-- Something that ends polling: a page that was not past the end and has no active task, a
rejected credential, or the end of the session. -/
inductive IsQuiet : Mark → Prop
  | loaded {s : ListState} {snapshot : Snapshot} (hs : s.disposed = false)
      (hend : ¬ s.IsPastEnd snapshot.total) (h : ∀ task ∈ snapshot.tasks, task.isActive = false) :
      IsQuiet (.took s (.pageLoaded s.query snapshot))
  | rejected {s : ListState} : IsQuiet (.took s .authInvalid)
  | closed {s : ListState} : IsQuiet (.took s .disposed)

/-- The view takes in a page with an active task. -/
inductive IsBusy : Mark → Prop
  | loaded {s : ListState} {snapshot : Snapshot} {task : TaskRecord} (hs : s.disposed = false)
      (hmem : task ∈ snapshot.tasks) (h : task.isActive = true) :
      IsBusy (.took s (.pageLoaded s.query snapshot))

/-- Since something ended polling, no page with an active task has come. -/
def Hushed (marks : List Mark) : Prop :=
  ∃ before quiet between, marks = before ++ quiet :: between ∧ quiet.IsQuiet ∧
    ∀ mark ∈ between, ¬ mark.IsBusy

theorem not_hushed_nil : ¬ Hushed [] := by
  rintro ⟨before, quiet, between, h, -⟩
  cases before <;> cases h

/-- What comes last decides, or leaves it as it was. -/
theorem Hushed.of_concat {marks : List Mark} {mark : Mark} (h : Hushed (marks ++ [mark])) :
    mark.IsQuiet ∨ (Hushed marks ∧ ¬ mark.IsBusy) := by
  obtain ⟨before, quiet, between, hmarks, hquiet, hbetween⟩ := h
  rcases eq_or_split_of_concat hmarks with ⟨-, rfl, -⟩ | ⟨rest, hrest, rfl⟩
  · exact .inl hquiet
  · obtain ⟨hbetween, hlast⟩ := List.forall_mem_append.mp hbetween
    exact .inr ⟨⟨before, quiet, rest, hrest, hquiet, hbetween⟩, hlast mark List.mem_cons_self⟩

/-- Polling is off after something that ends it. -/
theorem IsQuiet.polling_eq {s : ListState} {m : Message} (h : IsQuiet (.took s m))
    (hs : s.Sound) : (s.update m).1.polling = false := by
  cases h with
  | loaded hopen hend hidle =>
    obtain ⟨-, hpolling⟩ := (ListState.reaction_update hopen _).settles hend
    rw [hpolling]
    simpa using hidle
  | rejected => exact (hs.rejects .adminTasks).1
  | closed => exact hs.polling_update_disposed

/-- Only a page with an active task turns polling on. -/
theorem polling_eq_of_reaction {s t : ListState} {m : Message} {effects : List Effect}
    (h : s.Reaction m t effects) (hs : s.disposed = false) (hbusy : ¬ IsBusy (.took s m))
    (hoff : s.polling = false) : t.polling = false := by
  cases h with
  | marked | turned | fetched | failed => exact hoff
  | corrected => exact (ListState.load_polling _ _).trans hoff
  | settled =>
    change List.any _ _ = false
    simpa using fun task hmem hactive => hbusy (.loaded hs hmem hactive)
  | rejected | closed => rfl

theorem polling_eq_of_not_isBusy {s : ListState} {m : Message} (hbusy : ¬ IsBusy (.took s m))
    (hoff : s.polling = false) : (s.update m).1.polling = false := by
  cases hd : s.disposed with
  | true => rwa [ListState.update_of_disposed hd]
  | false => exact polling_eq_of_reaction (ListState.reaction_update hd m) hd hbusy hoff

end Mark

namespace Session

variable {κ : Type} [Vault κ]

/-- As long as nothing has come that would start it again, polling stays off. -/
theorem Turns.polling_of_hushed {s t : Session κ} {marks : List Mark} (h : Turns s marks t)
    (hs : s.InStep) (hhushed : Mark.Hushed marks) : t.state.polling = false := by
  induction h with
  | refl => exact absurd hhushed Mark.not_hushed_nil
  | tail h hturn ih =>
    have hinStep := h.inStep hs
    rcases hturn.notes hinStep with ⟨m, rfl, hpolling⟩ | ⟨hstate, rfl | ⟨run, rfl, -⟩⟩
    · rw [hpolling]
      rcases hhushed.of_concat with hquiet | ⟨hhushed, hbusy⟩
      · exact hquiet.polling_eq hinStep.sound.state
      · exact Mark.polling_eq_of_not_isBusy hbusy (ih hhushed)
    · rw [List.append_nil] at hhushed
      rw [hstate, ih hhushed]
    · rcases hhushed.of_concat with hquiet | ⟨hhushed, -⟩
      · cases hquiet
      · rw [hstate, ih hhushed]

/-- When a tick begins, a page with an active task has come since polling ended. -/
theorem Turns.not_hushed_of_ticked {s t : Session κ} {before after : List Mark} {run : Nat}
    (h : Turns s (before ++ .ticked run :: after) t) (hs : s.InStep) : ¬ Mark.Hushed before := by
  generalize hmarks : before ++ .ticked run :: after = marks at h
  induction h generalizing after with
  | refl => cases before <;> cases hmarks
  | tail h hturn ih =>
    have hinStep := h.inStep hs
    rcases hturn.notes hinStep with ⟨m, rfl, -⟩ | ⟨-, rfl | ⟨number, rfl, hpolling⟩⟩
    · rcases eq_or_split_of_concat hmarks.symm with ⟨-, heq, -⟩ | ⟨rest, hrest, -⟩
      · cases heq
      · exact ih hrest.symm
    · rw [List.append_nil] at hmarks
      exact ih hmarks
    · rcases eq_or_split_of_concat hmarks.symm with ⟨rfl, -, -⟩ | ⟨rest, hrest, -⟩
      · intro hhushed
        rw [h.polling_of_hushed hs hhushed] at hpolling
        cases hpolling
      · exact ih hrest.symm

/-- A list with one row a page, opened at its third page. -/
private def thirdPage : ViewConfig :=
  { pageSize := 1, startPage := 3 }

/-- A page with a running task, which is the third one of three. -/
private def busyPage : Message :=
  .pageLoaded thirdPage.query
    ⟨[{ id := "t", kind := .video, status := .running, progress := 0, payload := .null,
        result := none, error := none, createdAt := 0 }], 3⟩

/-- A world with a credential. -/
private def keyed : World MemoryVault :=
  { vault := ⟨{ admin := some "key" }⟩ }

/-- In every order of the activities of a session: whenever nothing is going on, the poller is
active exactly if the state has polling on. And between something that ends polling and a tick of
the poller, whichever run it belongs to, a page with an active task has come. -/
theorem timer_in_step (config : ViewConfig) (policy : RetryPolicy) (world : World κ)
    {marks : List Mark} {s : Session κ} (h : Turns (opened config policy world) marks s) :
    (s.running = none → s.poller.isActive = s.state.polling) ∧
      ∀ before quiet between run after,
        marks = before ++ quiet :: (between ++ .ticked run :: after) → quiet.IsQuiet →
          ∃ mark ∈ between, mark.IsBusy := by
  have hopened := inStep_opened config policy world
  refine ⟨fun hnone => ?_, fun before quiet between run after hmarks hquiet => ?_⟩
  · have hgoes := (h.inStep hopened).goes
    rw [hnone] at hgoes
    exact hgoes
  · rw [hmarks, ← List.cons_append, ← List.append_assoc] at h
    have hnot := h.not_hushed_of_ticked hopened
    refine Classical.byContradiction fun hnone => hnot ?_
    refine ⟨before, quiet, between, rfl, hquiet, fun mark hmem hbusy => ?_⟩
    exact hnone ⟨mark, hmem, hbusy⟩

/-- A rejected credential ends polling, and a page with a running task starts it again. The tick of
the second run comes after that page. -/
theorem timer_in_step_after_rejection :
    ∃ (marks between : List Mark) (t : ListState) (first : Mark) (s : Session MemoryVault),
      Turns (opened thirdPage {} keyed) marks s ∧
        marks = first :: .took t .authInvalid :: (between ++ [.ticked 2]) ∧
        ∃ mark ∈ between, mark.IsBusy := by
  have hasked : Turns (opened thirdPage {} keyed) _ _ := (Turn.dispatch rfl busyPage).turns
  have hpolling := ((hasked.tail (.goOn rfl)).tail (.goOn rfl)).tail (.goOn rfl)
  have hrejected := hpolling.tail (.dispatch rfl .authInvalid)
  have hoff := (((hrejected.tail (.goOn rfl)).tail (.goOn rfl)).tail (.goOn rfl)).tail (.goOn rfl)
  have hagain := hoff.tail (.dispatch rfl busyPage)
  have hon := ((hagain.tail (.goOn rfl)).tail (.goOn rfl)).tail (.goOn rfl)
  -- The first run waits on the agenda as well; the second one is taken up.
  have hwait := (hon.tail (.takeUp [_] rfl rfl)).tail (.goOn rfl)
  have htick := (hwait.tail (.takeUp [_] rfl rfl)).tail (.goOn rfl)
  refine ⟨_, [_], _, _, _, htick, rfl, ?_⟩
  exact (timer_in_step _ _ _ htick).2 [_] _ [_] 2 [] rfl .rejected

/-- A page past the end has no active task, and yet a tick begins before another page has come:
the view asks for the last page instead and leaves polling as it is until that page comes. -/
theorem not_silent_after_past_end :
    ¬ ∀ (config : ViewConfig) (policy : RetryPolicy) (world : World MemoryVault)
        (marks : List Mark) (s : Session MemoryVault),
        Turns (opened config policy world) marks s →
          ∀ before t snapshot between run after,
            marks = before ++ .took t (.pageLoaded t.query snapshot) ::
              (between ++ .ticked run :: after) →
            t.disposed = false → (∀ task ∈ snapshot.tasks, task.isActive = false) →
              ∃ mark ∈ between, mark.IsBusy := by
  intro hsilent
  have hasked : Turns (opened thirdPage {} keyed) _ _ := (Turn.dispatch rfl busyPage).turns
  have hpolling := ((hasked.tail (.goOn rfl)).tail (.goOn rfl)).tail (.goOn rfl)
  have hempty := hpolling.tail (.dispatch rfl (.pageLoaded thirdPage.query ⟨[], 1⟩))
  have hcorrected := (hempty.tail (.goOn rfl)).tail (.goOn rfl)
  -- While the last page is on its way, the run of the poller goes on.
  have hflight := hcorrected.tail (.wait rfl (by exact trivial) 0 false)
  have hwait := (hflight.tail (.takeUp [] rfl rfl)).tail (.goOn rfl)
  have htick := (hwait.tail (.takeUp [_] rfl rfl)).tail (.goOn rfl)
  obtain ⟨mark, hmem, -⟩ :=
    hsilent _ _ _ _ _ htick [.took _ _] _ ⟨[], 1⟩ [] 1 [] rfl rfl (by simp)
  cases hmem

end Session

end TaskDesk
