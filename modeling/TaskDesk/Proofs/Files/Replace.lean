import TaskDesk.Files.Replace
import TaskDesk.Proofs.Files.Disk

/-!
# Replacing a file is all or nothing

Actions on a disk are run step by step, from wherever the disk has got to. The place for a new file
is always free, so removing the file again leaves no trace. Hence a replacement that fails leaves
the disk as it was once the folder was there, and one that does not fail puts the new file where the
path leads.

## Main definitions

- `DiskAction.runFrom` — an action from a disk that has passed through others before
- `Disk.faultAt` — chance lets one step fail

## Main results

- `Disk.freePlace?_eq_some` — the place for a new file is free, whatever name was drawn
- `Disk.replaceFile_cases` — the two ways in which a replacement ends
- `Disk.read?_of_replaceFile` — what was written is read back
- `Disk.disk_of_replaceFile_error` — a failure in a folder that is there changes nothing
-/

namespace TaskDesk

namespace Disk

variable {d : Disk}

/-! ## Places for new files -/

variable {mark : Disk → Place → TempMark}

/-- A new file gets a place in a folder, with a name for new files, and nothing is there yet. -/
theorem freePlace?_eq_some {folder : String} {place : Place}
    (h : d.freePlace? mark folder = some place) :
    ∃ (above : Place) (m : TempMark), place = above ++ [m.name] ∧
      d.entry? above = some .folder ∧ d.entry? place = none := by
  unfold freePlace? at h
  split at h
  · next above hfound =>
    dsimp only at h
    split_ifs at h with hlong htaken
    obtain rfl := Option.some.inj h
    exact ⟨above, mark d above, rfl, entry_of_resolve_found hfound, by simpa using htaken⟩
  · nomatch h

theorem entry_of_freePlace? {folder : String} {place : Place}
    (h : d.freePlace? mark folder = some place) : d.entry? place = none := by
  obtain ⟨-, -, -, -, hnone⟩ := freePlace?_eq_some h
  exact hnone

end Disk

/-! ## Running actions -/

namespace DiskAction

variable {α β : Type}

/-- Runs an action from a disk that has passed through others before. -/
def runFrom (action : DiskAction α) (t : DiskTrail) : Except StoreError α × DiskTrail :=
  StateT.run (ExceptT.run action) t

variable (t : DiskTrail)

/-- What comes after an action goes on from where the action ended, unless it failed. -/
theorem runFrom_bind (action : DiskAction α) (next : α → DiskAction β) :
    runFrom (action >>= next) t =
      match runFrom action t with
      | (.ok a, t') => runFrom (next a) t'
      | (.error e, t') => (.error e, t') := by
  rw [runFrom, ExceptT.run_bind, StateT.run_bind]
  rcases h : StateT.run (ExceptT.run action) t with ⟨_ | _, t'⟩ <;>
    simp only [runFrom, h] <;> rfl

@[simp] theorem runFrom_look_bind (next : Disk → DiskAction β) :
    runFrom (look >>= next) t = runFrom (next t.disk) t :=
  rfl

@[simp] theorem runFrom_pass_bind (disk : Disk) (next : Unit → DiskAction β) :
    runFrom (pass disk >>= next) t = runFrom (next ()) ⟨disk, t.disk :: t.passed⟩ :=
  rfl

@[simp] theorem runFrom_guard_bind (fails : DiskStep → Bool) (step : DiskStep) (e : StoreError)
    (next : Unit → DiskAction β) :
    runFrom (guard fails step e >>= next) t =
      if fails step then (.error e, t) else runFrom (next ()) t := by
  unfold guard
  split <;> rfl

/-- What a failed action changed stays changed. -/
theorem runFrom_tryCatch (action : DiskAction α) (handle : StoreError → DiskAction α) :
    runFrom (tryCatch action handle) t =
      match runFrom action t with
      | (.ok a, t') => (.ok a, t')
      | (.error e, t') => runFrom (handle e) t' := by
  rw [runFrom, ExceptT.run_tryCatch, StateT.run_bind]
  rcases h : StateT.run (ExceptT.run action) t with ⟨_ | _, t'⟩ <;>
    simp only [runFrom, h] <;> rfl

end DiskAction

namespace Disk

open DiskAction

variable (chance : DiskChance) (t : DiskTrail)

/-- One step fails. -/
def faultAt (step : DiskStep) : DiskChance :=
  { noFault with fails := (· = step) }

/-! ## Steps of a replacement -/

/-- A new file is filled and goes to where the path leads, or it stays, filled or not. On the way
only the new file is there. -/
theorem fillAndRename_cases (fails : DiskStep → Bool) (d : Disk) (place : Place)
    (old : List UInt8) (passed : List Disk) (target : String) (content : List UInt8) :
    let r := runFrom (fillAndRename fails place target content) ⟨d.put place (.file old), passed⟩
    ((∃ e bytes, r.1 = .error e ∧ r.2.disk = d.put place (.file bytes)) ∨
        r.1 = .ok () ∧ (d.put place (.file content)).rename? place target = some r.2.disk) ∧
      ∀ s ∈ r.2.passed, s ∈ passed ∨ ∃ bytes, s = d.put place (.file bytes) := by
  have hbegun : ∀ s ∈ d.put place (.file old) :: passed,
      s ∈ passed ∨ ∃ bytes, s = d.put place (.file bytes) :=
    List.forall_mem_cons.mpr ⟨.inr ⟨old, rfl⟩, fun _ => .inl⟩
  simp only [fillAndRename, runFrom_guard_bind, runFrom_look_bind, runFrom_pass_bind, put_put]
  split_ifs
  · exact ⟨.inl ⟨_, old, rfl, rfl⟩, fun _ => .inl⟩
  · exact ⟨.inl ⟨_, content, rfl, rfl⟩, hbegun⟩
  · exact ⟨.inl ⟨_, content, rfl, rfl⟩, hbegun⟩
  · exact ⟨.inl ⟨_, content, rfl, rfl⟩, hbegun⟩
  · cases (d.put place (.file content)).rename? place target with
    | none => exact ⟨.inl ⟨_, content, rfl, rfl⟩, hbegun⟩
    | some disk =>
      exact ⟨.inr ⟨rfl, rfl⟩, List.forall_mem_cons.mpr ⟨.inr ⟨content, rfl⟩, hbegun⟩⟩

/-- Trying a folder leaves no trace. -/
theorem disk_probe (folder : String) : (runFrom (probe chance folder) t).2.disk = t.disk := by
  rw [probe, runFrom_look_bind]
  cases hplace : t.disk.freePlace? (chance.mark .probe) folder with
  | none => rfl
  | some place =>
    simp only [runFrom_guard_bind, runFrom_pass_bind, runFrom_look_bind]
    split_ifs
    · rfl
    · exact remove_put (entry_of_freePlace? hplace)

theorem isThere_of_hasFolder {d : Disk} {path : String} (h : d.hasFolder path) :
    d.isThere path := by
  unfold hasFolder at h
  unfold isThere
  split at h
  · simp [*]
  · nomatch h

/-- A folder that is there is only tried. -/
theorem disk_ensureFolder {folder : String} (h : t.disk.hasFolder folder) :
    (runFrom (ensureFolder chance folder) t).2.disk = t.disk := by
  have hsame : runFrom (ensureFolder chance folder) t = runFrom (probe chance folder) t := by
    simp only [ensureFolder, runFrom_look_bind]
    rw [if_pos (isThere_of_hasFolder h)]
    simp [h]
  rw [hsame, disk_probe]

/-- A replacement fails and leaves the disk as it was when the folder was ready, or it renames a
new file over the old one. On the way from there only a new file is there. -/
theorem replaceFile_cases (target : String) (content : List UInt8) :
    let t' := (runFrom (ensureFolder chance (Path.folder target)) t).2
    let r := runFrom (replaceFile chance target content) t
    ((∃ e, r.1 = .error e ∧ r.2.disk = t'.disk) ∨
        r.1 = .ok () ∧ ∃ place,
          t'.disk.freePlace? (chance.mark .create) (Path.folder target) = some place ∧
          (t'.disk.put place (.file content)).rename? place target = some r.2.disk) ∧
      ∀ s ∈ r.2.passed, s ∈ t'.disk :: t'.passed ∨
        ∃ place bytes,
          t'.disk.freePlace? (chance.mark .create) (Path.folder target) = some place ∧
          s = t'.disk.put place (.file bytes) := by
  simp only [replaceFile]
  rw [runFrom_bind]
  rcases hready : runFrom (ensureFolder chance (Path.folder target)) t with ⟨e | _, ready⟩
  · exact ⟨.inl ⟨e, rfl, rfl⟩, fun _ hs => .inl (List.mem_cons_of_mem _ hs)⟩
  simp only [runFrom_look_bind]
  cases hplace : ready.disk.freePlace? (chance.mark .create) (Path.folder target) with
  | none => exact ⟨.inl ⟨_, rfl, rfl⟩, fun _ hs => .inl (List.mem_cons_of_mem _ hs)⟩
  | some place =>
    simp only [runFrom_guard_bind, runFrom_look_bind, runFrom_pass_bind, runFrom_tryCatch]
    split_ifs
    · exact ⟨.inl ⟨_, rfl, rfl⟩, fun _ hs => .inl (List.mem_cons_of_mem _ hs)⟩
    have hcases := fillAndRename_cases chance.fails ready.disk place [] (ready.disk :: ready.passed)
      target content
    revert hcases
    -- If the new file was not renamed, it is removed and the error is passed on.
    rcases runFrom (fillAndRename chance.fails place target content)
      ⟨ready.disk.put place (.file []), ready.disk :: ready.passed⟩ with ⟨e | _, last⟩
    · rintro ⟨⟨_, bytes, -, hlast⟩ | ⟨hok, -⟩, hpassed⟩
      · refine ⟨.inl ⟨e, rfl, ?_⟩, List.forall_mem_cons.mpr ⟨?_, fun s hs => ?_⟩⟩
        · calc last.disk.remove place
            _ = (ready.disk.put place (.file bytes)).remove place := by rw [hlast]
            _ = ready.disk := remove_put (entry_of_freePlace? hplace)
        · exact .inr ⟨place, bytes, rfl, hlast⟩
        · exact (hpassed s hs).imp_right fun ⟨bytes, h⟩ => ⟨place, bytes, rfl, h⟩
      · nomatch hok
    · rintro ⟨⟨_, _, herror, -⟩ | ⟨-, hrename⟩, hpassed⟩
      · nomatch herror
      · refine ⟨.inr ⟨rfl, place, rfl, hrename⟩, fun s hs => ?_⟩
        exact (hpassed s hs).imp_right fun ⟨bytes, h⟩ => ⟨place, bytes, rfl, h⟩

theorem after_eq_iff {α : Type} {d d' : Disk} {action : DiskAction α} {r : Except StoreError α} :
    d.after action = (r, d') ↔
      (runFrom action ⟨d, []⟩).1 = r ∧ (runFrom action ⟨d, []⟩).2.disk = d' :=
  Prod.ext_iff

/-- What was written is read back. -/
theorem read?_of_replaceFile {chance : DiskChance} {d d' : Disk} {target : String}
    {content : List UInt8} (h : d.after (replaceFile chance target content) = (.ok (), d')) :
    d'.isThere target ∧ d'.read? target = some content := by
  obtain ⟨hok, rfl⟩ := after_eq_iff.mp h
  obtain ⟨⟨e, herror, -⟩ | ⟨-, hrenamed⟩, -⟩ := replaceFile_cases chance ⟨d, []⟩ target content
  · rw [herror] at hok
    nomatch hok
  · obtain ⟨place, hplace, hrename⟩ := hrenamed
    have hfree := not_prefix_of_entry_none (entry_of_freePlace? hplace)
    obtain ⟨there, -, -, hthere⟩ := resolve_rename (entry_put_self hfree) hrename
    simp only [isThere, read?, hthere, and_self]

/-- A replacement that fails in a folder that is there leaves the disk as it was. -/
theorem disk_of_replaceFile_error {chance : DiskChance} {d d' : Disk} {target : String}
    {content : List UInt8} {e : StoreError} (hfolder : d.hasFolder (Path.folder target))
    (h : d.after (replaceFile chance target content) = (.error e, d')) : d' = d := by
  obtain ⟨herror, rfl⟩ := after_eq_iff.mp h
  obtain ⟨⟨_, -, hready⟩ | ⟨hok, -⟩, -⟩ := replaceFile_cases chance ⟨d, []⟩ target content
  · exact hready.trans (disk_ensureFolder chance ⟨d, []⟩ hfolder)
  · rw [hok] at herror
    nomatch herror

end Disk

end TaskDesk
