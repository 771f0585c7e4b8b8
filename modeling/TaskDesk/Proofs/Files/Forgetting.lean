import TaskDesk.Proofs.Files.Secrets

/-!
# Stored is stored, forgotten is forgotten

Whoever is told that a secret was stored finds it when the file of credentials is opened again,
after any calls before and whatever became of them. Whoever is told that a secret was forgotten
finds none, with one exception. A call to forget looks into memory only to see whether there is
something to write, and a call that fails has changed memory already. So after one to forget that
failed the next one writes nothing, and the secret comes back when the file is opened again. It
stays until something else is written.

## Main definitions

- `DiskVault.Course` — call after call, with how each ended
- `ForgottenInVain` — a secret was to be forgotten and may still be in the file
- `DiskVault.Backed` — what memory does not have the file does not have, unless forgotten in vain

## Main results

- `DiskVault.Backed.call`, `DiskVault.Course.backed` — one call, and all of them
- `DiskVault.ok_reaches_file` — what a call reports is what the file says, with that one exception
- `DiskVault.Course.forget_of_forgottenInVain` — the exception
-/

namespace TaskDesk

/-! ## Call after call -/

/-- How a call ended. -/
inductive CallEnd where
  | written
  /-- There was nothing to write. -/
  | idle
  | failed
deriving DecidableEq, Repr

/-- A call and how it ended. -/
structure CallNote where
  call : SecretCall
  ending : CallEnd
deriving DecidableEq, Repr

/-- The scope was to be forgotten, and the file could not be written. Since then the file was not
written, and nothing was stored for the scope. -/
def ForgottenInVain (notes : List CallNote) (scope : Scope) : Prop :=
  ∃ before after c, notes = before ++ ⟨c, .failed⟩ :: after ∧ c.scope = scope ∧ c.secret? = none ∧
    ∀ n ∈ after, n.ending ≠ .written ∧ (n.call.scope = scope → n.call.secret? = none)

namespace ForgottenInVain

variable {notes : List CallNote} {scope : Scope} {n : CallNote}

/-- The last call forgot the scope in vain, or an earlier one did and the last one was no help. -/
theorem concat_iff :
    ForgottenInVain (notes ++ [n]) scope ↔
      (n.ending = .failed ∧ n.call.scope = scope ∧ n.call.secret? = none) ∨
        ForgottenInVain notes scope ∧ n.ending ≠ .written ∧
          (n.call.scope = scope → n.call.secret? = none) := by
  constructor
  · rintro ⟨before, after, c, hnotes, hscope, hsecret, hafter⟩
    rcases List.eq_nil_or_concat' after with rfl | ⟨after, last, rfl⟩
    · have hlast : n = ⟨c, .failed⟩ := by simpa using (List.append_inj' hnotes rfl).2
      exact .inl (hlast ▸ ⟨rfl, hscope, hsecret⟩)
    · rw [← List.cons_append, ← List.append_assoc] at hnotes
      obtain ⟨hbefore, hlast⟩ := List.append_inj' hnotes rfl
      obtain rfl : n = last := by simpa using hlast
      refine .inr ⟨⟨before, after, c, hbefore, hscope, hsecret, fun m hm => ?_⟩, hafter n (by simp)⟩
      exact hafter m (List.mem_append_left _ hm)
  · rintro (⟨hending, hscope, hsecret⟩ | ⟨⟨before, after, c, rfl, hscope, hsecret, hafter⟩, hn⟩)
    · exact ⟨notes, [], n.call, by rw [← hending], hscope, hsecret, List.forall_mem_nil _⟩
    · refine ⟨before, after ++ [n], c, by simp, hscope, hsecret, fun m hm => ?_⟩
      rcases List.mem_append.mp hm with hm | hm
      · exact hafter m hm
      · exact List.mem_singleton.mp hm ▸ hn

/-- Once the file is written nothing is forgotten in vain any more. -/
theorem not_of_written (h : n.ending = .written) : ¬ ForgottenInVain (notes ++ [n]) scope := by
  simp [concat_iff, h]

end ForgottenInVain

namespace DiskVault

/-- What is noted of a call. -/
def note (v : DiskVault) (chance : DiskChance) (c : SecretCall) : CallNote where
  call := c
  ending :=
    match (v.call chance c).1 with
    | .error _ => .failed
    | .ok () => if v.file.owes c then .written else .idle

/-- Call after call. One that fails leaves what the file says as it was. -/
inductive Course (v₀ : DiskVault) : List CallNote → DiskVault → Prop
  | start : Course v₀ [] v₀
  | call {notes : List CallNote} {v : DiskVault} (h : Course v₀ notes v)
      (chance : DiskChance) (c : SecretCall)
      (hkept : ∀ e, (v.call chance c).1 = .error e →
        SecretFile.openAt (v.call chance c).2.disk v.file.path =
          SecretFile.openAt v.disk v.file.path) :
      Course v₀ (notes ++ [v.note chance c]) (v.call chance c).2

/-- The file can be opened, and what memory does not have the file does not have either, unless it
was forgotten in vain. -/
def Backed (v : DiskVault) (notes : List CallNote) : Prop :=
  ∃ saved, SecretFile.openAt v.disk v.file.path = .ok { path := v.file.path, saved } ∧
    ∀ scope, v.file.saved.get scope = none →
      saved.get scope = none ∨ ForgottenInVain notes scope

variable {v₀ v w : DiskVault} {chance : DiskChance} {c : SecretCall} {notes : List CallNote}

/-- The three ways in which a call can end. -/
theorem call_cases (v : DiskVault) (chance : DiskChance) (c : SecretCall) :
    (v.note chance c).ending = .idle ∧ ¬ v.file.owes c ∧
        v.call chance c = (.ok (), ⟨v.file.change c, v.disk⟩) ∨
      (v.note chance c).ending = .written ∧ (v.call chance c).1 = .ok () ∧
        SecretFile.openAt (v.call chance c).2.disk v.file.path =
          .ok { path := v.file.path, saved := (v.file.change c).saved } ∨
      (v.note chance c).ending = .failed ∧ v.file.owes c ∧ ∃ e, (v.call chance c).1 = .error e := by
  by_cases howes : v.file.owes c
  · have hcall : v.call chance c = _ := call_of_owes howes
    cases hsave : (v.file.change c).save chance v.disk with
    | mk r disk =>
      rw [hsave] at hcall
      cases r with
      | error e => exact .inr (.inr ⟨by simp [note, hcall], howes, e, by rw [hcall]⟩)
      | ok =>
        refine .inr (.inl ⟨by simp [note, hcall, howes], by rw [hcall], ?_⟩)
        rw [hcall]
        exact SecretFile.openAt_of_save hsave
  · have hcall : v.call chance c = _ := call_of_not_owes howes
    exact .inl ⟨by simp [note, hcall, howes], howes, hcall⟩

/-- One call keeps the file behind the memory. -/
theorem Backed.call (h : v.Backed notes)
    (hkept : ∀ e, (v.call chance c).1 = .error e →
      SecretFile.openAt (v.call chance c).2.disk v.file.path =
        SecretFile.openAt v.disk v.file.path) :
    (v.call chance c).2.Backed (notes ++ [v.note chance c]) := by
  obtain ⟨saved, hopen, hbacked⟩ := h
  unfold Backed
  rw [file_call]
  rcases call_cases v chance c with ⟨hending, howes, hcall⟩ | ⟨-, -, hwritten⟩ |
    ⟨hending, -, e, herror⟩
  -- Nothing was to be written: memory and file are as before.
  · refine ⟨saved, by rw [hcall]; exact hopen, fun scope hnone => ?_⟩
    rw [SecretFile.saved_change_of_not_owes howes] at hnone
    refine (hbacked scope hnone).imp_right fun hvain => ForgottenInVain.concat_iff.mpr (.inr ?_)
    exact ⟨hvain, by simp [hending], fun _ => (SecretFile.not_owes_iff.mp howes).1⟩
  -- The file has all that memory has.
  · exact ⟨_, hwritten, fun scope hnone => .inl hnone⟩
  -- The file is as before, and memory has changed for one scope.
  · refine ⟨saved, (hkept e herror).trans hopen, fun scope hnone => ?_⟩
    by_cases hscope : scope = c.scope
    · rw [hscope, SecretFile.saved_get_change_self] at hnone
      exact .inr (ForgottenInVain.concat_iff.mpr (.inl ⟨hending, hscope.symm, hnone⟩))
    · rw [SecretFile.saved_get_change_of_ne v.file hscope] at hnone
      refine (hbacked scope hnone).imp_right fun hvain => ForgottenInVain.concat_iff.mpr (.inr ?_)
      exact ⟨hvain, by simp [hending], fun h => absurd h.symm hscope⟩

theorem Course.backed (h : Course v₀ notes v) (hstart : v₀.Backed []) : v.Backed notes := by
  induction h with
  | start => exact hstart
  | call _ chance c hkept ih => exact ih.call hkept

theorem Course.path_eq (h : Course v₀ notes v) : v.file.path = v₀.file.path := by
  induction h with
  | start => rfl
  | call _ chance c _ ih => rw [file_call, SecretFile.change, ih]

/-- What was forgotten in vain is not in memory. -/
theorem Course.get_of_forgottenInVain (h : Course v₀ notes v) {scope : Scope}
    (hvain : ForgottenInVain notes scope) : v.file.saved.get scope = none := by
  induction h with
  | start =>
    obtain ⟨before, after, c, hnotes, -⟩ := hvain
    simp at hnotes
  | call _ chance c _ ih =>
    rw [file_call]
    by_cases hscope : scope = c.scope
    · rw [hscope, SecretFile.saved_get_change_self]
      rcases ForgottenInVain.concat_iff.mp hvain with ⟨-, -, hsecret⟩ | ⟨-, -, hsecret⟩
      · exact hsecret
      · exact hsecret hscope.symm
    · rw [SecretFile.saved_get_change_of_ne _ hscope]
      rcases ForgottenInVain.concat_iff.mp hvain with ⟨-, hsame, -⟩ | ⟨hvain, -, -⟩
      · exact absurd hsame.symm hscope
      · exact ih hvain

/-- After a scope was forgotten in vain, a call to forget it reports success and writes nothing. -/
theorem Course.forget_of_forgottenInVain (h : Course v₀ notes v) {scope : Scope}
    (hvain : ForgottenInVain notes scope) (chance : DiskChance) :
    v.call chance (.forget scope) = (.ok (), ⟨v.file.change (.forget scope), v.disk⟩) :=
  call_of_not_owes (SecretFile.not_owes_iff.mpr ⟨rfl, h.get_of_forgottenInVain hvain⟩)

/-- When the file was just opened, memory has what the file has. -/
theorem backed_of_openAt {d : Disk} {path : String} {f : SecretFile}
    (h : SecretFile.openAt d path = .ok f) (overrides : Slots) :
    Backed ⟨{ f with overrides }, d⟩ [] := by
  have hfile := SecretFile.eq_of_openAt h
  have hpath : f.path = path := congrArg SecretFile.path hfile
  refine ⟨f.saved, ?_, fun scope hnone => .inl hnone⟩
  rw [hpath, h]
  exact congrArg Except.ok hfile

/-- A secret whose storing was reported is in the file; one whose forgetting was reported is not in
it, unless it was forgotten in vain before. -/
theorem ok_reaches_file {d : Disk} {path : String} {f : SecretFile}
    (hopen : SecretFile.openAt d path = .ok f) (overrides : Slots)
    (h : Course ⟨{ f with overrides }, d⟩ notes v) (chance : DiskChance) :
    (∀ scope secret, (v.call chance (.store scope secret)).1 = .ok () →
      ∃ g, SecretFile.openAt (v.call chance (.store scope secret)).2.disk path = .ok g ∧
        g.get scope = some secret) ∧
    ∀ scope, (v.call chance (.forget scope)).1 = .ok () →
      ∃ g, SecretFile.openAt (v.call chance (.forget scope)).2.disk path = .ok g ∧
        (g.get scope = none ∨ ForgottenInVain notes scope) := by
  have hpath : v.file.path = path :=
    h.path_eq.trans (congrArg SecretFile.path (SecretFile.eq_of_openAt hopen))
  obtain ⟨saved, hsaved, hbacked⟩ := h.backed (backed_of_openAt hopen overrides)
  rw [hpath] at hsaved
  refine ⟨fun scope secret hok => ?_, fun scope hok => ?_⟩
  · rcases call_cases v chance (.store scope secret) with ⟨-, howes, -⟩ | ⟨-, -, hwritten⟩ |
      ⟨-, -, e, herror⟩
    · exact absurd rfl howes
    · rw [hpath] at hwritten
      refine ⟨_, hwritten, ?_⟩
      rw [SecretFile.get_of_opened]
      exact v.file.saved_get_change_self (.store scope secret)
    · nomatch hok.symm.trans herror
  · rcases call_cases v chance (.forget scope) with ⟨-, howes, hcall⟩ | ⟨-, -, hwritten⟩ |
      ⟨-, -, e, herror⟩
    -- Here the call relies on memory, and so the file may still have the secret.
    · rw [hcall]
      refine ⟨_, hsaved, ?_⟩
      rw [SecretFile.get_of_opened]
      exact hbacked scope (SecretFile.not_owes_iff.mp howes).2
    · rw [hpath] at hwritten
      refine ⟨_, hwritten, .inl ?_⟩
      rw [SecretFile.get_of_opened]
      exact v.file.saved_get_change_self (.forget scope)
    · nomatch hok.symm.trans herror

/-- A disk with a key in the file `c`. -/
def diskWithKey : Disk where
  entries := [(["home", "c"], .file (Utf8.encode (Slots.toText { admin := some "k" })))]

/-- The key in the file `c`, just opened. -/
def fileWithKey : SecretFile where
  path := "c"
  saved := { admin := some "k" }

theorem openAt_diskWithKey : SecretFile.openAt diskWithKey "c" = .ok fileWithKey := by
  have hthere : diskWithKey.isThere "c" := by decide
  have hread : diskWithKey.read? "c" = some (Utf8.encode (Slots.toText { admin := some "k" })) :=
    rfl
  simp only [SecretFile.openAt, hthere, hread, Option.bind_some, Utf8.decode?_encode,
    Slots.ofText?_toText, if_true]
  rfl

/-- The key was to be forgotten, and the file could not be written. -/
def failedVault : DiskVault :=
  (call ⟨fileWithKey, diskWithKey⟩ (Disk.faultAt .rename) (.forget .admin)).2

theorem call_faultAt :
    (call ⟨fileWithKey, diskWithKey⟩ (Disk.faultAt .rename) (.forget .admin)).1 = .error .io := by
  rfl

theorem disk_failedVault : failedVault.disk = diskWithKey :=
  disk_of_call_error (by decide) call_faultAt

theorem course_failedVault :
    Course ⟨fileWithKey, diskWithKey⟩ [⟨.forget .admin, .failed⟩] failedVault := by
  refine Course.call .start (Disk.faultAt .rename) (.forget .admin) fun e _ => ?_
  exact congrArg (SecretFile.openAt · "c") disk_failedVault

/-- A token was stored after the failure, and the key is gone with that. -/
theorem ok_reaches_file_after_failure :
    let v := (failedVault.call Disk.noFault (.store .token "t")).2
    (v.call Disk.noFault (.forget .admin)).1 = .ok () ∧
      ∃ g, SecretFile.openAt (v.call Disk.noFault (.forget .admin)).2.disk "c" = .ok g ∧
        g.get .admin = none := by
  intro v
  have hstored : (failedVault.call Disk.noFault (.store .token "t")).1 = .ok () := by rfl
  have hcourse : Course ⟨fileWithKey, diskWithKey⟩
      ([⟨.forget .admin, .failed⟩] ++ [failedVault.note Disk.noFault (.store .token "t")]) v :=
    course_failedVault.call Disk.noFault (.store .token "t") fun _ he =>
      nomatch hstored.symm.trans he
  have hforgotten : (v.call Disk.noFault (.forget .admin)).1 = .ok () := by rfl
  obtain ⟨g, hopen, hg⟩ :=
    (ok_reaches_file openAt_diskWithKey {} hcourse Disk.noFault).2 .admin hforgotten
  exact ⟨hforgotten, g, hopen, hg.resolve_right (ForgottenInVain.not_of_written rfl)⟩

/-- After the failure another call to forget the key reports success, and the key is still in the
file. -/
theorem forgotten_comes_back :
    SecretFile.openAt diskWithKey "c" = .ok fileWithKey ∧
      Course ⟨fileWithKey, diskWithKey⟩ [⟨.forget .admin, .failed⟩] failedVault ∧
      (failedVault.call Disk.noFault (.forget .admin)).1 = .ok () ∧
      ∃ g, SecretFile.openAt (failedVault.call Disk.noFault (.forget .admin)).2.disk "c" = .ok g ∧
        g.get .admin = some "k" := by
  refine ⟨openAt_diskWithKey, course_failedVault, rfl, fileWithKey, ?_, rfl⟩
  have hidle : (failedVault.call Disk.noFault (.forget .admin)).2.disk = failedVault.disk := rfl
  rw [hidle, disk_failedVault, openAt_diskWithKey]

end DiskVault

end TaskDesk
