import TaskDesk.Proofs.Files.Growth
import TaskDesk.Proofs.Files.Replace

/-!
# What a replacement shows on its way

Up to the renaming, a replacement makes folders and begins one new file at a time, whose name is one
for new files. So whatever fails and wherever one looks, every file that was there is as it was, and
so is what a path reads, unless a new folder turns it elsewhere or the new file is at its end.

## Main definitions

- `Disk.IsTempNamed` — names that end like the place of a new file
- `Disk.Begun`, `Disk.Grown` — the disks on the way, with and without a new file
- `Disk.Grows` — a part of the way
- `Disk.OnlyGrows` — an action that goes on from anywhere on the way

## Main results

- `Disk.OnlyGrows.ensureFolder` — making a folder ready is a part of the way
- `Disk.begun_of_replaceFile` — the whole way up to the renaming
- `Disk.Grown.rename` — the renaming
- `Disk.replaced_or_untouched` — all of it, and what the path reads
-/

namespace TaskDesk.Disk

open DiskAction

variable {d s ready : Disk} {place : Place} {folder target : String} {content bytes : List UInt8}
  {mark : Disk → Place → TempMark}

/-- The last name is one for new files. -/
def IsTempNamed (names : List String) : Prop :=
  ∃ mark : TempMark, names.getLast? = some mark.name

/-! ## Disks on the way -/

/-- A disk on the way: whatever was there still is, and no file is new unless it has the name of a
new file. -/
structure Begun (d s : Disk) : Prop extends Keeps d s where
  isTree : s.IsTree
  file_eq_or : ∀ place, s.file? place = d.file? place ∨ d.entry? place = none ∧ IsTempNamed place

/-- A disk on the way without a new file: only folders are new. -/
structure Grown (d s : Disk) : Prop extends Keeps d s where
  isTree : s.IsTree
  file_eq : ∀ place, s.file? place = d.file? place

/-- A new file makes no folder and takes the place of none. -/
theorem entry_put_file_eq_folder_iff (h : d.entry? place = none) {other : Place} :
    Disk.entry? (d.put place (.file bytes)) other = some .folder ↔
      d.entry? other = some .folder := by
  by_cases hother : other = place
  · rw [hother, entry_put_self (not_prefix_of_entry_none h), h]
    simp
  · rw [entry_put_of_ne hother]

namespace Grown

theorem refl (hd : d.IsTree) : Grown d d :=
  ⟨.refl d, hd, fun _ => rfl⟩

theorem begun (h : Grown d s) : Begun d s :=
  ⟨h.toKeeps, h.isTree, fun place => .inl (h.file_eq place)⟩

/-- A folder is made. -/
theorem put_folder (h : Grown d s) {path : String} {slash : Bool}
    (hfree : s.resolve path = .free place slash) : Grown d (s.put place .folder) := by
  obtain ⟨hnone, above, name, rfl, habove⟩ := exists_folder_of_resolve_free hfree
  refine ⟨h.toKeeps.put hnone _, h.isTree.put habove (by simp [hnone]) _, fun p => ?_⟩
  rw [← h.file_eq p]
  by_cases hp : p = above ++ [name]
  · have hthere : Disk.entry? (s.put (above ++ [name]) .folder) (above ++ [name]) = some .folder :=
      entry_put_self (not_prefix_of_entry_none hnone)
    rw [hp, file?_of_entry_none hnone, file?, hthere]
  · exact file?_put_of_ne hp

/-- A new file is begun. -/
theorem put_file (h : Grown d s) (hplace : s.freePlace? mark folder = some place)
    (bytes : List UInt8) : Begun d (s.put place (.file bytes)) := by
  obtain ⟨above, m, rfl, habove, hnone⟩ := freePlace?_eq_some hplace
  refine ⟨h.toKeeps.put hnone _, h.isTree.put habove (by simp [hnone]) _, fun p => ?_⟩
  by_cases hp : p = above ++ [m.name]
  · exact .inr ⟨hp ▸ h.toKeeps.entry_none hnone, m, by simp [hp]⟩
  · exact .inl ((file?_put_of_ne hp).trans (h.file_eq p))

end Grown

/-! ## The way -/

/-- From one trail to another one only disks on the way were passed, and the last one has no new
file. -/
structure Grows (d : Disk) (t t' : DiskTrail) : Prop where
  grown : Grown d t'.disk
  passed : ∀ s ∈ t'.passed, s ∈ t.passed ∨ Begun d s

variable {t t' : DiskTrail}

theorem Grows.refl (h : Grown d t.disk) : Grows d t t :=
  ⟨h, fun _ => .inl⟩

theorem Grows.trans {t'' : DiskTrail} (h : Grows d t t') (h' : Grows d t' t'') :
    Grows d t t'' := by
  refine ⟨h'.grown, fun s hs => ?_⟩
  rcases h'.passed s hs with hs | hs
  · exact h.passed s hs
  · exact .inr hs

/-- Wherever an action begins on the way, it only goes on. -/
def OnlyGrows (d : Disk) {α : Type} (action : DiskAction α) : Prop :=
  ∀ t : DiskTrail, Grown d t.disk → Grows d t (runFrom action t).2

namespace OnlyGrows

variable {α β : Type} {action : DiskAction α} {next : α → DiskAction β}

theorem pure (a : α) : OnlyGrows d (pure a : DiskAction α) :=
  fun _ h => .refl h

theorem throw (e : StoreError) : OnlyGrows d (throw e : DiskAction α) :=
  fun _ h => .refl h

theorem look : OnlyGrows d look :=
  fun _ h => .refl h

theorem bind (h : OnlyGrows d action) (hnext : ∀ a, OnlyGrows d (next a)) :
    OnlyGrows d (action >>= next) := by
  intro t ht
  have hfirst := h t ht
  rw [runFrom_bind]
  rcases hrun : runFrom action t with ⟨e | a, t'⟩
  · rwa [hrun] at hfirst
  · rw [hrun] at hfirst
    exact hfirst.trans (hnext a t' hfirst.grown)

theorem makeFolder (fails : DiskStep → Bool) (path : String) :
    OnlyGrows d (makeFolder fails path) := by
  intro t h
  simp only [Disk.makeFolder, runFrom_look_bind]
  cases hresolve : t.disk.resolve path with
  | free place slash =>
    by_cases hfails : fails (.makeFolder place)
    · simp only [hfails, if_true]
      exact .refl h
    · simp only [hfails]
      exact ⟨h.put_folder hresolve, List.forall_mem_cons.mpr ⟨.inr h.begun, fun _ => .inl⟩⟩
  | found | missing | blocked => exact .refl h

/-- A folder that could not be made may be there all the same. -/
theorem unless_hasFolder (path : String) :
    OnlyGrows d (do
      unless (← DiskAction.look).hasFolder path do
        MonadExcept.throw StoreError.folder) := by
  refine look.bind fun disk => ?_
  split
  · exact .pure ()
  · exact .throw _

theorem makeFolders (fails : DiskStep → Bool) (depth : Nat) (path : String) :
    OnlyGrows d (makeFolders fails depth path) := by
  induction depth generalizing path with
  | zero => exact .throw _
  | succ depth ih =>
    rw [Disk.makeFolders]
    split
    · exact .pure ()
    refine (makeFolder fails path).bind fun made => ?_
    match made with
    | .ok () => exact .pure ()
    | .error false => exact unless_hasFolder path
    | .error true =>
      dsimp only
      split
      · exact .throw _
      · refine (ih _).bind fun _ => (makeFolder fails path).bind fun again => ?_
        match again with
        | .ok () => exact .pure ()
        | .error _ => exact unless_hasFolder path

/-- Trying a folder passes a new file. -/
theorem probe (chance : DiskChance) (folder : String) : OnlyGrows d (probe chance folder) := by
  intro t h
  rw [Disk.probe, runFrom_look_bind]
  cases hplace : t.disk.freePlace? (chance.mark .probe) folder with
  | none => exact .refl h
  | some place =>
    simp only [runFrom_guard_bind, runFrom_pass_bind, runFrom_look_bind]
    split_ifs
    · exact .refl h
    · refine ⟨?_, List.forall_mem_cons.mpr ⟨.inr (h.put_file hplace []),
        List.forall_mem_cons.mpr ⟨.inr h.begun, fun _ => .inl⟩⟩⟩
      rwa [remove_put (entry_of_freePlace? hplace)]

theorem ensureFolder (chance : DiskChance) (folder : String) :
    OnlyGrows d (ensureFolder chance folder) := by
  rw [Disk.ensureFolder]
  refine look.bind fun disk => ?_
  split
  · refine look.bind fun disk => ?_
    split
    · exact probe chance folder
    · exact (throw _).bind fun _ => probe chance folder
  · exact (makeFolders chance.fails _ folder).bind fun _ => probe chance folder

end OnlyGrows

/-! ## Replacing -/

/-- Every disk that a replacement passes is one on the way, and so is the last one if it fails. -/
theorem begun_of_replaceFile (hd : d.IsTree) (chance : DiskChance) (target : String)
    (content : List UInt8) :
    let r := (replaceFile chance target content).on d
    (∀ e, r.1 = .error e → Grown d r.2.disk) ∧ ∀ s ∈ r.2.passed, Begun d s := by
  have hready := OnlyGrows.ensureFolder chance (Path.folder target) ⟨d, []⟩ (.refl hd)
  obtain ⟨hends, hpassed⟩ := replaceFile_cases chance ⟨d, []⟩ target content
  refine ⟨fun e he => ?_, fun s hs => ?_⟩
  · rcases hends with ⟨_, -, hdisk⟩ | ⟨hok, -⟩
    · exact (congrArg (Grown d) hdisk).mpr hready.grown
    · nomatch hok.symm.trans he
  · rcases hpassed s hs with hs | ⟨place, bytes, hplace, rfl⟩
    · rcases List.mem_cons.mp hs with rfl | hs
      · exact hready.grown.begun
      · exact (hready.passed s hs).resolve_left List.not_mem_nil
    · exact hready.grown.put_file hplace bytes

/-- A new file that is renamed leaves nothing but itself. -/
theorem Grown.rename (h : Grown d ready) (hplace : ready.freePlace? mark folder = some place)
    (hrename : (ready.put place (.file content)).rename? place target = some s) :
    s.IsTree ∧ ∃ there, s.resolve target = .found there (.file content) ∧
      (∀ old entry, d.resolve target = .found old entry → old = there) ∧
      ∀ other, other ≠ there → s.file? other = d.file? other := by
  have hnone := entry_of_freePlace? hplace
  obtain ⟨there, hthere, rfl, hfound⟩ :=
    resolve_rename (entry_put_self (not_prefix_of_entry_none hnone)) hrename
  have hold (old : Place) (entry : DiskEntry) (h' : d.resolve target = .found old entry) :
      old = there := by
    rw [(h.put_file hplace content).toKeeps.resolve_found h'] at hthere
    rcases entry with bytes | _
    · exact Option.some.inj hthere
    · nomatch hthere
  rw [resolve_eq_follow_of_filePlace? hthere] at hthere
  obtain ⟨above, name, rfl, habove⟩ := (h.put_file hplace content).isTree.exists_folder hthere
  have hfile := entry_ne_folder_of_filePlace? hthere
  rw [entry_put_file_eq_folder_iff hnone] at habove
  rw [ne_eq, entry_put_file_eq_folder_iff hnone] at hfile
  rw [remove_put hnone] at hfound ⊢
  refine ⟨h.isTree.put habove hfile _, _, hfound, hold, fun other hother => ?_⟩
  rw [file?_put_of_ne hother, h.file_eq]

theorem Grown.read?_eq (h : Grown d s) (hd : d.IsTree) (hsteady : d.Steady target) :
    s.read? target = d.read? target := by
  refine (h.toKeeps.read?_eq_or hd hsteady).resolve_right fun ⟨place, hfile, hnone, _⟩ => ?_
  rw [h.file_eq, file?_of_entry_none hnone] at hfile
  exact hfile rfl

theorem Begun.read?_eq (h : Begun d s) (hd : d.IsTree) (hsteady : d.Steady target)
    (hname : ¬ IsTempNamed (Path.segments target)) : s.read? target = d.read? target := by
  refine (h.toKeeps.read?_eq_or hd hsteady).resolve_right fun ⟨place, hfile, hnone, hlast⟩ => ?_
  rcases h.file_eq_or place with hsame | ⟨-, m, hplace⟩
  · rw [hsame, file?_of_entry_none hnone] at hfile
    exact hfile rfl
  · exact hname ⟨m, hlast.trans hplace⟩

/-- A replacement that does not fail puts the content where the path leads, which is where it led
before if it led anywhere, and no other file changes or is new. One that fails changes no file, and
the path reads as before unless it goes up from what was missing. Every disk that is passed on the
way has all files as they were and at most new ones that have a name for new files; there, too, the
path reads as before, unless it goes up from what was missing, or it read nothing and has such a
name itself. The disks are trees again, as every disk is that a replacement can begin with. -/
theorem replaced_or_untouched (chance : DiskChance) (d : Disk) (target : String)
    (content : List UInt8) (hd : d.IsTree) :
    let r := (replaceFile chance target content).on d
    (r.1 = .ok () → r.2.disk.IsTree ∧
      ∃ place, r.2.disk.resolve target = .found place (.file content) ∧
        (∀ old entry, d.resolve target = .found old entry → old = place) ∧
        ∀ other, other ≠ place → r.2.disk.file? other = d.file? other) ∧
    (∀ e, r.1 = .error e → r.2.disk.IsTree ∧
      (∀ place, r.2.disk.file? place = d.file? place) ∧
      (d.Steady target → r.2.disk.read? target = d.read? target)) ∧
    (∀ s ∈ r.2.passed, s.IsTree ∧
      (∀ place, s.file? place = d.file? place ∨ d.entry? place = none ∧ IsTempNamed place) ∧
      (d.Steady target → d.read? target ≠ none ∨ ¬ IsTempNamed (Path.segments target) →
        s.read? target = d.read? target)) := by
  intro r
  obtain ⟨hfailed, hpassed⟩ := begun_of_replaceFile hd chance target content
  refine ⟨fun hok => ?_, fun e he => ?_, fun s hs => ?_⟩
  · have hready := OnlyGrows.ensureFolder chance (Path.folder target) ⟨d, []⟩ (.refl hd)
    obtain ⟨⟨e, he, -⟩ | ⟨-, place, hplace, hrename⟩, -⟩ :=
      replaceFile_cases chance ⟨d, []⟩ target content
    · nomatch hok.symm.trans he
    · exact hready.grown.rename hplace hrename
  · have hgrown := hfailed e he
    exact ⟨hgrown.isTree, hgrown.file_eq, hgrown.read?_eq hd⟩
  · have hbegun := hpassed s hs
    refine ⟨hbegun.isTree, hbegun.file_eq_or, fun hsteady hname => ?_⟩
    rcases hname with hread | hname
    · exact hbegun.toKeeps.read?_eq hread
    · exact hbegun.read?_eq hd hsteady hname

/-- A file with one byte in the working folder. -/
def diskWithFile : Disk :=
  { entries := [(["home", "f"], .file [1])] }

theorem isTree_diskWithFile : diskWithFile.IsTree := by
  have hempty : IsTree {} := isTree_of_empty rfl
  have habove : Disk.entry? {} ["home"] = some .folder := rfl
  have hput : (Disk.put {} (["home"] ++ ["f"]) (.file [1])).IsTree := hempty.put habove nofun _
  exact hput

/-- A new file is not renamed over an old one, and the old one is read at every step. Another one is
renamed, and the new content is read. -/
theorem replaced_or_untouched_at_last :
    (((replaceFile (faultAt .rename) "f" [2]).on diskWithFile).1 = .error .io ∧
      ((replaceFile (faultAt .rename) "f" [2]).on diskWithFile).2.disk.read? "f" = some [1] ∧
      ∀ s ∈ ((replaceFile (faultAt .rename) "f" [2]).on diskWithFile).2.passed,
        s.read? "f" = some [1]) ∧
    ((replaceFile noFault "f" [2]).on diskWithFile).1 = .ok () ∧
      ((replaceFile noFault "f" [2]).on diskWithFile).2.disk.resolve "f" =
        .found ["home", "f"] (.file [2]) := by
  have hread : diskWithFile.read? "f" = some [1] := rfl
  have hsteady : diskWithFile.Steady "f" := anchored_of_not_mem (by decide)
  have hio : ((replaceFile (faultAt .rename) "f" [2]).on diskWithFile).1 = .error .io := rfl
  have hok : ((replaceFile noFault "f" [2]).on diskWithFile).1 = .ok () := rfl
  obtain ⟨-, hfailed, hpassed⟩ :=
    replaced_or_untouched (faultAt .rename) diskWithFile "f" [2] isTree_diskWithFile
  obtain ⟨-, place, hplace, hsame, -⟩ :=
    (replaced_or_untouched noFault diskWithFile "f" [2] isTree_diskWithFile).1 hok
  refine ⟨⟨hio, ?_, fun s hs => ?_⟩, hok, ?_⟩
  · exact ((hfailed .io hio).2.2 hsteady).trans hread
  · exact ((hpassed s hs).2.2 hsteady (.inl (by rw [hread]; exact nofun))).trans hread
  · obtain rfl : ["home", "f"] = place := hsame _ (.file [1]) rfl
    exact hplace

/-- No step fails, and the new file is `.tmp4Xz0Qb`. -/
def drawsOneName : DiskChance where
  fails _ := false
  mark _ _ _ := ⟨"4Xz0Qb".toList, rfl, rfl⟩

/-- A folder that is made on the way up turns a path to a file that it did not lead to before,
though the replacement fails. A new file can get the name that it is to be renamed to, and is seen
there while it is empty. -/
theorem new_folder_turns_path :
    (((replaceFile (faultAt .probe) "x/../f" [2]).on diskWithFile).1 = .error .folder ∧
      diskWithFile.read? "x/../f" = none ∧
      ((replaceFile (faultAt .probe) "x/../f" [2]).on diskWithFile).2.disk.read? "x/../f" =
        some [1]) ∧
    Disk.read? {} ".tmp4Xz0Qb" = none ∧
      some [] ∈ ((replaceFile drawsOneName ".tmp4Xz0Qb" [2]).on {}).2.passed.map fun s =>
        s.read? ".tmp4Xz0Qb" := by
  refine ⟨⟨rfl, rfl, rfl⟩, rfl, ?_⟩
  decide

end TaskDesk.Disk
