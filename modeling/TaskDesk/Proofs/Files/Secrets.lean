import TaskDesk.Files.Secrets
import TaskDesk.Proofs.Files.Replace
import TaskDesk.Proofs.Ron.Record
import TaskDesk.Proofs.Text.Utf8

/-!
# Calls of a file of credentials

The file says what was written to it, whatever the secrets are. A call first changes the secrets in
memory; whatever becomes of the file, they stay changed. Then it writes all of them, unless a secret
that was not there was to be forgotten.

## Main definitions

- `SecretCall` — what is asked of a file of credentials
- `DiskVault.call` — carrying out a call while steps of writing the file may fail

## Main results

- `Slots.ofText?_toText` — the text of the file is read back
- `SecretFile.openAt_of_save` — the secrets that were saved are there when the file is opened again
- `DiskVault.call_of_owes`, `DiskVault.call_of_not_owes` — what a call does
- `DiskVault.disk_of_call_error` — a call that fails in a folder that is there changes nothing
-/

namespace TaskDesk

/-! ## The text of the file -/

namespace Slots

theorem put_of_get {s : Slots} {scope : Scope} {secret : Option String}
    (h : s.get scope = secret) : s.put scope secret = s := by
  cases scope <;> cases h <;> rfl

/-- The lines of the file. -/
def lines (s : Slots) : List (Ron.Line Slots) :=
  [Ron.optionalLine "admin_key" (fun secret s => { s with admin := secret }) s.admin,
    Ron.optionalLine "task_token" (fun secret s => { s with token := secret }) s.token]

/-- The text of the file is read back, whatever the secrets are. -/
theorem ofText?_toText (s : Slots) : ofText? s.toText = some s := by
  refine record.read?_writeRecord {} s.lines ?_ ?_ ?_
  · intro l hl
    rcases List.mem_pair.mp hl with rfl | rfl
    · exact Ron.optionalLine_reads (fun _ => rfl) (fun _ => rfl) _ _
    · exact Ron.optionalLine_reads (fun _ => rfl) (fun _ => rfl) _ _
  · intro l hl
    rcases List.mem_pair.mp hl with rfl | rfl <;> rfl
  · show ["admin_key", "task_token"].Nodup
    decide

end Slots

namespace SecretFile

variable {f : SecretFile} {chance : DiskChance} {d d' : Disk}

/-- The secrets that were saved are there when the file is opened again. -/
theorem openAt_of_save (h : f.save chance d = (.ok (), d')) :
    openAt d' f.path = .ok { path := f.path, saved := f.saved } := by
  obtain ⟨hthere, hread⟩ := Disk.read?_of_replaceFile h
  simp only [openAt, hthere, hread, Option.bind_some, Utf8.decode?_encode, Slots.ofText?_toText,
    if_true]

@[simp] theorem get_of_opened (path : String) (saved : Slots) (scope : Scope) :
    SecretFile.get { path, saved } scope = saved.get scope := by
  cases scope <;> rfl

/-- A file that was just opened holds what the file says, and nothing overrides it. -/
theorem eq_of_openAt {path : String} (h : openAt d path = .ok f) :
    f = { path, saved := f.saved } := by
  unfold openAt at h
  split at h
  · split at h
    · nomatch h
    · split at h
      · obtain rfl := Except.ok.inj h
        rfl
      · nomatch h
  · obtain rfl := Except.ok.inj h
    rfl

/-- A file that cannot be written stays as it is, and so does everything else, if its folder is
there. -/
theorem disk_of_save_error {e : StoreError} (hfolder : d.hasFolder (Path.folder f.path))
    (h : f.save chance d = (.error e, d')) : d' = d :=
  Disk.disk_of_replaceFile_error hfolder h

end SecretFile

/-! ## Calls -/

/-- What is asked of a file of credentials. -/
inductive SecretCall where
  | store (scope : Scope) (secret : String)
  | forget (scope : Scope)
  /-- Stores, but tells nobody of a failure. -/
  | set (scope : Scope) (secret : String)
  /-- Forgets, but tells nobody of a failure. -/
  | clear (scope : Scope)
deriving DecidableEq, Repr

namespace SecretCall

/-- The scope of a call. -/
def scope : SecretCall → Scope
  | .store scope _ | .forget scope | .set scope _ | .clear scope => scope

/-- The secret that the scope is to have from then on. -/
def secret? : SecretCall → Option String
  | .store _ secret | .set _ secret => some secret
  | .forget _ | .clear _ => none

end SecretCall

namespace SecretFile

/-- The secrets in memory after a call. -/
def change (f : SecretFile) (c : SecretCall) : SecretFile :=
  { f with saved := f.saved.put c.scope c.secret?, overrides := f.overrides.put c.scope none }

/-- There is something to write. -/
def owes (f : SecretFile) (c : SecretCall) : Bool :=
  c.secret?.isSome || (f.saved.get c.scope).isSome

variable {f : SecretFile} {chance : DiskChance} {d : Disk}

theorem not_owes_iff {c : SecretCall} :
    ¬ f.owes c ↔ c.secret? = none ∧ f.saved.get c.scope = none := by
  simp [owes]

theorem saved_change_of_not_owes {c : SecretCall} (h : ¬ f.owes c) :
    (f.change c).saved = f.saved := by
  obtain ⟨hsecret, hsaved⟩ := not_owes_iff.mp h
  rw [change, hsecret, Slots.put_of_get hsaved]

theorem saved_get_change_self (f : SecretFile) (c : SecretCall) :
    (f.change c).saved.get c.scope = c.secret? :=
  f.saved.get_put_self c.scope c.secret?

theorem saved_get_change_of_ne (f : SecretFile) {c : SecretCall} {scope : Scope}
    (h : scope ≠ c.scope) : (f.change c).saved.get scope = f.saved.get scope :=
  f.saved.get_put_of_ne h c.secret?

theorem forget_of_saved {scope : Scope} (h : f.owes (.forget scope)) :
    f.forget chance d scope =
      (f.change (.forget scope), (f.change (.forget scope)).save chance d) := by
  obtain ⟨secret, hsaved⟩ : ∃ secret, f.saved.get scope = some secret :=
    Option.isSome_iff_exists.mp h
  simp only [forget, hsaved]
  rfl

theorem forget_of_not_saved {scope : Scope} (h : ¬ f.owes (.forget scope)) :
    f.forget chance d scope = (f.change (.forget scope), .ok (), d) := by
  have hsaved : f.saved.get scope = none := (not_owes_iff.mp h).2
  simp only [forget, hsaved, change, SecretCall.scope, SecretCall.secret?, Slots.put_of_get hsaved]

end SecretFile

namespace DiskVault

/-- Carries out a call; each step of writing the file may fail. -/
def call (v : DiskVault) (chance : DiskChance) : SecretCall → Except StoreError Unit × DiskVault
  | .store scope secret | .set scope secret =>
    let (file, outcome, disk) := v.file.store chance v.disk scope secret
    (outcome, ⟨file, disk⟩)
  | .forget scope | .clear scope =>
    let (file, outcome, disk) := v.file.forget chance v.disk scope
    (outcome, ⟨file, disk⟩)

/-- The calls of a vault are calls with a disk that does what it is asked to do. -/
theorem set_eq_call (v : DiskVault) (scope : Scope) (secret : String) :
    Vault.set v scope secret = (v.call Disk.noFault (.set scope secret)).2 :=
  rfl

theorem clear_eq_call (v : DiskVault) (scope : Scope) :
    Vault.clear v scope = (v.call Disk.noFault (.clear scope)).2 :=
  rfl

variable {v w : DiskVault} {chance : DiskChance} {c : SecretCall}

/-- A call changes the secrets in memory, whatever becomes of the file, and writes all of them if
there is something to write. -/
theorem call_of_owes (h : v.file.owes c) :
    v.call chance c =
      (((v.file.change c).save chance v.disk).1,
        ⟨v.file.change c, ((v.file.change c).save chance v.disk).2⟩) := by
  cases c with
  | store scope secret => rfl
  | set scope secret => rfl
  | forget scope =>
    simp only [call, SecretFile.forget_of_saved h]
  | clear scope =>
    have hforget : v.file.owes (.forget scope) := h
    simp only [call, SecretFile.forget_of_saved hforget]
    rfl

theorem call_of_not_owes (h : ¬ v.file.owes c) :
    v.call chance c = (.ok (), ⟨v.file.change c, v.disk⟩) := by
  cases c with
  | store scope secret => exact absurd rfl h
  | set scope secret => exact absurd rfl h
  | forget scope =>
    simp only [call, SecretFile.forget_of_not_saved h]
  | clear scope =>
    have hforget : ¬ v.file.owes (.forget scope) := h
    simp only [call, SecretFile.forget_of_not_saved hforget]
    rfl

@[simp] theorem file_call (v : DiskVault) (chance : DiskChance) (c : SecretCall) :
    (v.call chance c).2.file = v.file.change c := by
  by_cases h : v.file.owes c
  · rw [call_of_owes h]
  · rw [call_of_not_owes h]

/-- A call that fails in a folder that is there changes nothing on the disk. -/
theorem disk_of_call_error {e : StoreError} (hfolder : v.disk.hasFolder (Path.folder v.file.path))
    (h : (v.call chance c).1 = .error e) : (v.call chance c).2.disk = v.disk := by
  by_cases howes : v.file.owes c
  · rw [call_of_owes howes] at h ⊢
    exact SecretFile.disk_of_save_error (f := v.file.change c) hfolder (Prod.ext h rfl)
  · rw [call_of_not_owes howes] at h
    nomatch h

end DiskVault

end TaskDesk
