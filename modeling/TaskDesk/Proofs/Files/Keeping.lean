import Mathlib.Data.List.Induction
import TaskDesk.Proofs.Files.Forgetting

/-!
# What a file of credentials keeps

As long as writing succeeds, a file of credentials is a map with two slots: the last call about a
scope decides what is in its slot, in memory and when the file is opened again. Secrets that
override the file are seen until the first call about their scope. They decide nothing about the
disk, whether writing succeeds or not.

## Main definitions

- `SecretCall.last?` — what the last call about a scope leaves there
- `DiskVault.run` — calls one after the other
- `DiskVault.Synced` — the invariant: the file says what memory has
- `DiskVault.Alike` — two vaults that differ in what overrides the file at most

## Main results

- `DiskVault.get_run` — what a vault has after some calls
- `DiskVault.Synced.run` — as long as writing succeeds, so does the file
- `DiskVault.Alike.run` — what overrides the file never reaches the disk
- `DiskVault.keeps_last_secret` — the three together
-/

namespace TaskDesk

namespace SecretCall

/-- What the last call about a scope is to leave there, if there is one. -/
def last? (scope : Scope) (calls : List SecretCall) : Option (Option String) :=
  (calls.filter (·.scope = scope)).getLast?.map secret?

@[simp] theorem last?_nil (scope : Scope) : last? scope [] = none :=
  rfl

theorem last?_concat_self (calls : List SecretCall) (c : SecretCall) :
    last? c.scope (calls ++ [c]) = some c.secret? := by
  simp [last?]

theorem last?_concat_of_ne (calls : List SecretCall) {c : SecretCall} {scope : Scope}
    (h : scope ≠ c.scope) : last? scope (calls ++ [c]) = last? scope calls := by
  simp [last?, Ne.symm h]

end SecretCall

theorem SecretFile.overrides_get_change_self (f : SecretFile) (c : SecretCall) :
    (f.change c).overrides.get c.scope = none :=
  f.overrides.get_put_self c.scope none

theorem SecretFile.overrides_get_change_of_ne (f : SecretFile) {c : SecretCall} {scope : Scope}
    (h : scope ≠ c.scope) : (f.change c).overrides.get scope = f.overrides.get scope :=
  f.overrides.get_put_of_ne h none

/-- A call, with what chance makes of writing the file. -/
structure CallAttempt where
  call : SecretCall
  chance : DiskChance := Disk.noFault

namespace DiskVault

/-- The vault after a call. -/
def attempt (v : DiskVault) (a : CallAttempt) : DiskVault :=
  (v.call a.chance a.call).2

/-- The vault after some calls, one after the other. -/
def run (v : DiskVault) (attempts : List CallAttempt) : DiskVault :=
  attempts.foldl attempt v

/-- Every call reports success. -/
def AllSucceed : DiskVault → List CallAttempt → Prop
  | _, [] => True
  | v, a :: attempts => (v.call a.chance a.call).1 = .ok () ∧ AllSucceed (v.attempt a) attempts

/-- The file says what memory has. -/
def Synced (v : DiskVault) : Prop :=
  SecretFile.openAt v.disk v.file.path = .ok { path := v.file.path, saved := v.file.saved }

/-- Two vaults that differ in what overrides the file at most. -/
structure Alike (v w : DiskVault) : Prop where
  disk_eq : v.disk = w.disk
  path_eq : v.file.path = w.file.path
  saved_eq : v.file.saved = w.file.saved

variable {v w : DiskVault}

@[simp] theorem run_cons (v : DiskVault) (a : CallAttempt) (attempts : List CallAttempt) :
    v.run (a :: attempts) = (v.attempt a).run attempts :=
  rfl

@[simp] theorem run_concat (v : DiskVault) (attempts : List CallAttempt) (a : CallAttempt) :
    v.run (attempts ++ [a]) = (v.run attempts).attempt a := by
  rw [run, List.foldl_append]
  rfl

@[simp] theorem file_attempt (v : DiskVault) (a : CallAttempt) :
    (v.attempt a).file = v.file.change a.call :=
  file_call v a.chance a.call

/-! ## Memory -/

theorem path_run (v : DiskVault) (attempts : List CallAttempt) :
    (v.run attempts).file.path = v.file.path := by
  induction attempts generalizing v with
  | nil => rfl
  | cons a attempts ih => rw [run_cons, ih, file_attempt, SecretFile.change]

/-- The last call about a scope decides what memory has to save for it. -/
theorem saved_get_run (v : DiskVault) (attempts : List CallAttempt) (scope : Scope) :
    (v.run attempts).file.saved.get scope =
      (SecretCall.last? scope (attempts.map (·.call))).getD (v.file.saved.get scope) := by
  induction attempts using List.reverseRecOn with
  | nil => rfl
  | append_singleton attempts a ih =>
    rw [run_concat, file_attempt, List.map_append, List.map_singleton]
    by_cases h : scope = a.call.scope
    · rw [h, SecretFile.saved_get_change_self, SecretCall.last?_concat_self, Option.getD_some]
    · rw [SecretFile.saved_get_change_of_ne _ h, SecretCall.last?_concat_of_ne _ h, ih]

/-- After a call about a scope nothing overrides the file there any more. -/
theorem overrides_get_run (v : DiskVault) (attempts : List CallAttempt) (scope : Scope) :
    (v.run attempts).file.overrides.get scope =
      if (SecretCall.last? scope (attempts.map (·.call))).isSome then none
      else v.file.overrides.get scope := by
  induction attempts using List.reverseRecOn with
  | nil => rfl
  | append_singleton attempts a ih =>
    rw [run_concat, file_attempt, List.map_append, List.map_singleton]
    by_cases h : scope = a.call.scope
    · rw [h, SecretFile.overrides_get_change_self, SecretCall.last?_concat_self]
      rfl
    · rw [SecretFile.overrides_get_change_of_ne _ h, SecretCall.last?_concat_of_ne _ h, ih]

/-- The last call about a scope decides what the vault has there; without one it has what it had
before. -/
theorem get_run (v : DiskVault) (attempts : List CallAttempt) (scope : Scope) :
    (v.run attempts).file.get scope =
      (SecretCall.last? scope (attempts.map (·.call))).getD (v.file.get scope) := by
  rw [SecretFile.get, saved_get_run, overrides_get_run]
  cases SecretCall.last? scope (attempts.map (·.call)) with
  | none => rfl
  | some secret => rfl

/-! ## The file -/

theorem Synced.attempt {a : CallAttempt} (h : v.Synced)
    (hok : (v.call a.chance a.call).1 = .ok ()) : (v.attempt a).Synced := by
  unfold Synced
  rw [file_attempt]
  rcases call_cases v a.chance a.call with ⟨-, howes, hcall⟩ | ⟨-, -, hwritten⟩ | ⟨-, -, e, herror⟩
  -- Nothing was to be written, since memory had no such secret, and so the file has none.
  · rw [SecretFile.saved_change_of_not_owes howes, DiskVault.attempt, hcall]
    exact h
  · exact hwritten
  · nomatch hok.symm.trans herror

/-- As long as every call succeeds the file says what memory has. -/
theorem Synced.run (h : v.Synced) {attempts : List CallAttempt} (hok : v.AllSucceed attempts) :
    (v.run attempts).Synced := by
  induction attempts generalizing v with
  | nil => exact h
  | cons a attempts ih => exact ih (h.attempt hok.1) hok.2

/-! ## What overrides the file -/

theorem Alike.owes_eq (h : v.Alike w) (c : SecretCall) : v.file.owes c = w.file.owes c := by
  rw [SecretFile.owes, SecretFile.owes, h.saved_eq]

theorem Alike.save_eq (h : v.Alike w) (c : SecretCall) (chance : DiskChance) :
    (v.file.change c).save chance v.disk = (w.file.change c).save chance w.disk := by
  simp only [SecretFile.save, SecretFile.change, h.disk_eq, h.path_eq, h.saved_eq]

/-- A call does the same to the disk whatever overrides the file, also if writing fails. -/
theorem Alike.attempt (h : v.Alike w) (a : CallAttempt) : (v.attempt a).Alike (w.attempt a) := by
  refine ⟨?_, ?_, ?_⟩
  · by_cases howes : v.file.owes a.call
    · have howes' : w.file.owes a.call := h.owes_eq a.call ▸ howes
      rw [DiskVault.attempt, DiskVault.attempt, call_of_owes howes, call_of_owes howes', h.save_eq]
    · have howes' : ¬ w.file.owes a.call := h.owes_eq a.call ▸ howes
      rw [DiskVault.attempt, DiskVault.attempt, call_of_not_owes howes, call_of_not_owes howes']
      exact h.disk_eq
  · rw [file_attempt, file_attempt]
    exact h.path_eq
  · rw [file_attempt, file_attempt, SecretFile.change, SecretFile.change, h.saved_eq]

theorem Alike.run (h : v.Alike w) (attempts : List CallAttempt) :
    (v.run attempts).Alike (w.run attempts) := by
  induction attempts generalizing v w with
  | nil => exact h
  | cons a attempts ih => exact ih (h.attempt a)

/-! ## The map with two slots -/

/-- A file that can be opened, or is missing, is a map with two slots from then on. In memory the
last call about a scope decides, and without one what overrides the file comes first. When the file
is opened again after calls that succeeded, the same holds without what overrides it. And whatever
that is, and whatever fails, the disk is the same after the same calls. -/
theorem keeps_last_secret {d : Disk} {path : String} {f : SecretFile}
    (hopen : SecretFile.openAt d path = .ok f) (overrides : Slots) (attempts : List CallAttempt) :
    let v := run ⟨{ f with overrides }, d⟩ attempts
    let last? (scope : Scope) := SecretCall.last? scope (attempts.map (·.call))
    (∀ scope, Vault.get v scope =
        (last? scope).getD (overrides.get scope <|> f.get scope)) ∧
      (AllSucceed ⟨{ f with overrides }, d⟩ attempts →
        ∃ g, SecretFile.openAt v.disk path = .ok g ∧
          ∀ scope, g.get scope = (last? scope).getD (f.get scope)) ∧
      ∀ others, (run ⟨{ f with overrides := others }, d⟩ attempts).disk = v.disk := by
  obtain ⟨saved, rfl⟩ : ∃ saved, f = { path, saved } :=
    ⟨f.saved, SecretFile.eq_of_openAt hopen⟩
  intro v last?
  refine ⟨fun scope => ?_, fun hok => ?_, fun others => ?_⟩
  · rw [SecretFile.get_of_opened]
    exact get_run _ attempts scope
  · have hsynced : Synced ⟨{ path, saved, overrides }, d⟩ := hopen
    have hreopened := hsynced.run hok
    rw [Synced, path_run] at hreopened
    refine ⟨_, hreopened, fun scope => ?_⟩
    rw [SecretFile.get_of_opened, SecretFile.get_of_opened]
    exact saved_get_run _ attempts scope
  · have halike : Alike ⟨{ path, saved, overrides := others }, d⟩ ⟨{ path, saved, overrides }, d⟩ :=
      ⟨rfl, rfl, rfl⟩
    exact (halike.run attempts).disk_eq

/-- A token with a quotation mark is stored and the key is overridden. When the file is opened
again the token is there, and so is the key that was saved. -/
theorem keeps_last_secret_under_override :
    let attempts : List CallAttempt :=
      [⟨.set .token "t", Disk.noFault⟩, ⟨.clear .token, Disk.noFault⟩,
        ⟨.store .token "\"", Disk.noFault⟩]
    let v := run ⟨{ fileWithKey with overrides := { admin := some "env" } }, diskWithKey⟩ attempts
    Vault.get v .admin = some "env" ∧
      (∃ g, SecretFile.openAt v.disk "c" = .ok g ∧ g.get .admin = some "k" ∧
        g.get .token = some "\"") ∧
      (run ⟨fileWithKey, diskWithKey⟩ attempts).disk = v.disk := by
  intro attempts v
  obtain ⟨hmemory, hfile, hdisk⟩ :=
    keeps_last_secret openAt_diskWithKey { admin := some "env" } attempts
  obtain ⟨g, hopen, hg⟩ := hfile ⟨rfl, rfl, rfl, trivial⟩
  exact ⟨hmemory .admin, ⟨g, hopen, hg .admin, hg .token⟩, hdisk {}⟩

end DiskVault

end TaskDesk
