import TaskDesk.Api.Vault
import TaskDesk.Files.Replace
import TaskDesk.Ron.Record

/-!
# Credentials in a file

Two secrets are saved in a file, which every change replaces in one step. Secrets that come from
elsewhere for this run override them and are never written.

## Main definitions

* `Slots.toText`, `Slots.ofText?`: the saved secrets as the text of the file.
* `SecretFile`, `SecretFile.openAt`: the file and the overrides.
* `SecretFile.store`, `SecretFile.forget`: changes of the file.
* `DiskVault`: a vault that is a file.
-/

namespace TaskDesk

namespace Slots

def record : Ron.Record Slots where
  name := "StoredCredentials"
  fields :=
    [.optionalText "admin_key" fun secret s => { s with admin := secret },
      .optionalText "task_token" fun secret s => { s with token := secret }]

def ofText? (text : String) : Option Slots :=
  record.read? {} text

def toText (s : Slots) : String :=
  Ron.writeRecord
    [("admin_key", Ron.writeOptional s.admin), ("task_token", Ron.writeOptional s.token)]

end Slots

/-- A file with credentials and what overrides it. -/
structure SecretFile where
  path : String
  saved : Slots := {}
  overrides : Slots := {}
deriving DecidableEq, Repr

namespace SecretFile

/-- Reads the file at a path; a missing file holds nothing. -/
def openAt (d : Disk) (path : String) : Except StoreError SecretFile :=
  if d.isThere path then
    match (d.read? path).bind Utf8.decode? with
    | none => .error .io
    | some text =>
      match Slots.ofText? text with
      | some saved => .ok { path, saved }
      | none => .error (.parse path)
  else .ok { path }

def get (f : SecretFile) (scope : Scope) : Option String :=
  f.overrides.get scope <|> f.saved.get scope

def save (f : SecretFile) (chance : DiskChance) (d : Disk) : Except StoreError Unit × Disk :=
  d.after (Disk.replaceFile chance f.path (Utf8.encode f.saved.toText))

/-- Saves a secret. Nothing overrides it any more. -/
def store (f : SecretFile) (chance : DiskChance) (d : Disk) (scope : Scope)
    (secret : String) : SecretFile × Except StoreError Unit × Disk :=
  let f :=
    { f with
      saved := f.saved.put scope (some secret)
      overrides := f.overrides.put scope none }
  (f, f.save chance d)

/-- Forgets a secret. The file is written only if it was saved. -/
def forget (f : SecretFile) (chance : DiskChance) (d : Disk) (scope : Scope) :
    SecretFile × Except StoreError Unit × Disk :=
  let g := { f with overrides := f.overrides.put scope none }
  match f.saved.get scope with
  | none => (g, .ok (), d)
  | some _ =>
    let g := { g with saved := g.saved.put scope none }
    (g, g.save chance d)

theorem get_forget_self (f : SecretFile) (chance : DiskChance) (d : Disk) (scope : Scope) :
    (f.forget chance d scope).1.get scope = none := by
  unfold forget
  split
  · next h => simp [get, h]
  · simp [get]

theorem get_forget_of_ne (f : SecretFile) (chance : DiskChance) (d : Disk)
    {scope other : Scope} (h : other ≠ scope) :
    (f.forget chance d scope).1.get other = f.get other := by
  unfold forget
  split <;> simp only [get, Slots.get_put_of_ne _ h]

end SecretFile

/-- A vault that keeps credentials in a file on a disk. -/
structure DiskVault where
  file : SecretFile
  disk : Disk

namespace DiskVault

def store (v : DiskVault) (scope : Scope) (secret : String) :
    Except StoreError Unit × DiskVault :=
  let (file, outcome, disk) := v.file.store Disk.noFault v.disk scope secret
  (outcome, ⟨file, disk⟩)

def forget (v : DiskVault) (scope : Scope) : Except StoreError Unit × DiskVault :=
  let (file, outcome, disk) := v.file.forget Disk.noFault v.disk scope
  (outcome, ⟨file, disk⟩)

end DiskVault

instance : Vault DiskVault where
  get v scope := v.file.get scope
  set v scope secret := (v.store scope secret).2
  clear v scope := (v.forget scope).2

instance : LawfulVault DiskVault where
  get_clear_self v scope := v.file.get_forget_self Disk.noFault v.disk scope
  get_clear_of_ne v _ _ h := v.file.get_forget_of_ne Disk.noFault v.disk h

end TaskDesk
