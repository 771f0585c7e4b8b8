import Mathlib.Data.List.Induction
import TaskDesk.Proofs.Files.Disk

/-!
# Disks that grow

A disk has grown from another one if everything that was there still is. A path that led somewhere
then still leads there. A path that led nowhere can lead to a file in two ways: to a new file at its
end, or up from a folder that is new, to a file that was there all along. A path that does not go up
from what is missing only has the first way, since a disk is a tree: nothing can be below what was
missing.

## Main definitions

- `Disk.file?` — the content of the file at a place
- `Disk.IsTree` — everything is in a folder
- `Disk.Keeps` — everything that was there still is
- `Disk.Anchored`, `Disk.Steady` — a path that goes up from what is there only, so that no new
  folder can turn it elsewhere

## Main results

- `Disk.IsTree.put` — putting something into a folder makes a tree of a tree
- `Disk.Keeps.resolve_found` — what a path leads to is kept
- `Disk.Keeps.read?_eq_or` — what a steady path reads is kept, unless there is a new file at its end
-/

namespace TaskDesk.Disk

variable {d s : Disk} {place other : Place} {entry : DiskEntry} {bytes : List UInt8}
  {names : List String} {path : String}

/-- The content of the file at a place. -/
def file? (d : Disk) (place : Place) : Option (List UInt8) :=
  match d.entry? place with
  | some (.file bytes) => some bytes
  | _ => none

theorem file?_put_of_ne (h : other ≠ place) :
    Disk.file? (d.put place entry) other = d.file? other := by
  rw [file?, file?, entry_put_of_ne h]

theorem file?_of_entry_none (h : d.entry? place = none) : d.file? place = none := by
  rw [file?, h]

theorem read?_eq_some_iff :
    d.read? path = some bytes ↔ ∃ place, d.resolve path = .found place (.file bytes) := by
  unfold read?
  rcases d.resolve path with ⟨_, _ | _⟩ | _ | _ | _ <;> simp

/-! ## Trees -/

/-- Everything is in a folder. -/
def IsTree (d : Disk) : Prop :=
  ∀ place name, d.entry? (place ++ [name]) ≠ none → d.entry? place = some .folder

/-- A disk with nothing on it but the way to the working folder. -/
theorem isTree_of_empty (h : d.entries = []) : d.IsTree := by
  intro place name hthere
  refine entry_eq_folder ((List.prefix_append place [name]).trans ?_)
  by_contra hfar
  rw [entry_eq_lookup hfar, h] at hthere
  exact hthere rfl

/-- There is nothing below what is missing. -/
theorem IsTree.entry_of_prefix (hd : d.IsTree) (hbelow : place <+: other)
    (h : d.entry? place = none) : d.entry? other = none := by
  obtain ⟨names, rfl⟩ := hbelow
  induction names using List.reverseRecOn with
  | nil => rwa [List.append_nil]
  | append_singleton names name ih =>
    by_contra hother
    rw [← List.append_assoc] at hother
    rw [hd _ _ hother] at ih
    nomatch ih

/-- What something is in is there. -/
theorem IsTree.entry_dropLast (hd : d.IsTree) (h : d.entry? place ≠ none) :
    d.entry? place.dropLast ≠ none := by
  rcases List.eq_nil_or_concat place with rfl | ⟨above, name, rfl⟩
  · exact h
  · rw [List.concat_eq_append] at h ⊢
    rw [List.dropLast_concat, hd above name h]
    exact nofun

/-- What is put into a folder, in place of nothing or of a file, makes a tree of a tree. -/
theorem IsTree.put (hd : d.IsTree) {above : Place} {name : String}
    (habove : d.entry? above = some .folder) (hplace : d.entry? (above ++ [name]) ≠ some .folder)
    (entry : DiskEntry) : (d.put (above ++ [name]) entry).IsTree := by
  intro p n hthere
  have hkept {q : Place} (hq : d.entry? q = some .folder) :
      Disk.entry? (d.put (above ++ [name]) entry) q = some .folder := by
    rw [entry_put_of_ne, hq]
    rintro rfl
    exact hplace hq
  by_cases hp : p ++ [n] = above ++ [name]
  · obtain rfl : p = above := (List.append_inj' hp rfl).1
    exact hkept habove
  · rw [entry_put_of_ne hp] at hthere
    exact hkept (hd p n hthere)

/-- A free place is in a folder. -/
theorem exists_folder_of_follow_free {slash : Bool} (h : d.follow place names = .free other slash) :
    ∃ above name, other = above ++ [name] ∧ d.entry? above = some .folder := by
  fun_induction d.follow place names with
  | case3 place name rest hplace hname ih => exact ih h
  | case4 place rest hplace hname ih => exact ih h
  | case6 place name rest hplace hstays hup hname next e hnext ih => exact ih h
  | case7 place name rest hplace hstays hup hname next hnext hrest =>
    obtain ⟨rfl, -⟩ := Target.free.inj h
    exact ⟨place, name, rfl, hplace⟩
  | _ => cases h

theorem exists_folder_of_resolve_free {slash : Bool} (h : d.resolve path = .free place slash) :
    d.entry? place = none ∧
      ∃ above name, place = above ++ [name] ∧ d.entry? above = some .folder := by
  rw [resolve_eq_follow h nofun nofun] at h
  exact ⟨entry_of_follow_free h, exists_folder_of_follow_free h⟩

/-- A place for a file is in a folder. -/
theorem IsTree.exists_folder (hd : d.IsTree) (h : (d.follow place names).filePlace? = some other) :
    ∃ above name, other = above ++ [name] ∧ d.entry? above = some .folder := by
  rcases Target.filePlace?_eq_some_iff.mp h with ⟨bytes, hfound⟩ | hfree
  · have hfile : d.entry? other = some (.file bytes) := entry_of_follow_found hfound
    rcases List.eq_nil_or_concat other with rfl | ⟨above, name, rfl⟩
    · rw [entry_eq_folder List.nil_prefix] at hfile
      nomatch hfile
    · rw [List.concat_eq_append] at hfile ⊢
      exact ⟨above, name, rfl, hd above name (by simp [hfile])⟩
  · exact exists_folder_of_follow_free hfree

/-! ## Growing -/

/-- Everything that was there still is. -/
structure Keeps (d s : Disk) : Prop where
  home_eq : s.home = d.home
  entry_eq : ∀ {place entry}, d.entry? place = some entry → s.entry? place = some entry

namespace Keeps

theorem refl (d : Disk) : Keeps d d :=
  ⟨rfl, id⟩

/-- Something new keeps what is there. -/
theorem put (h : Keeps d s) (hplace : s.entry? place = none) (entry : DiskEntry) :
    Keeps d (s.put place entry) := by
  refine ⟨h.home_eq, fun {p e} hp => ?_⟩
  have hkept := h.entry_eq hp
  rw [entry_put_of_ne, hkept]
  rintro rfl
  rw [hplace] at hkept
  nomatch hkept

theorem entry_none (h : Keeps d s) (hplace : s.entry? place = none) : d.entry? place = none := by
  by_contra hne
  obtain ⟨e, he⟩ := Option.ne_none_iff_exists'.mp hne
  rw [h.entry_eq he] at hplace
  nomatch hplace

theorem follow_found (h : Keeps d s) (hfound : d.follow place names = .found other entry) :
    s.follow place names = .found other entry := by
  fun_induction d.follow place names with
  | case1 place e he =>
    obtain ⟨rfl, rfl⟩ := Target.found.inj hfound
    exact follow_nil (h.entry_eq he)
  | case3 place name rest hplace hname ih =>
    rw [follow_cons_of_staysPut (h.entry_eq hplace) hname]
    exact ih hfound
  | case4 place rest hplace hname ih =>
    rw [follow_cons_up (h.entry_eq hplace)]
    exact ih hfound
  | case6 place name rest hplace hstays hup hname next e hnext ih =>
    rw [follow_cons_down (h.entry_eq hplace) hstays hup (by simpa using hname) (h.entry_eq hnext)]
    exact ih hfound
  | _ => cases hfound

end Keeps

/-- A path that goes down only ends below where it begins, with its last name. -/
theorem getLast?_of_follow_found (hup : ".." ∉ names)
    (h : s.follow place names = .found other (.file bytes)) :
    place <+: other ∧ (names ≠ [] → names.getLast? = other.getLast?) := by
  fun_induction s.follow place names with
  | case1 place e he =>
    obtain ⟨rfl, rfl⟩ := Target.found.inj h
    exact ⟨List.prefix_rfl, fun hne => absurd rfl hne⟩
  | case3 place name rest hplace hname ih =>
    obtain ⟨hbelow, hlast⟩ := ih (List.not_mem_of_not_mem_cons hup) h
    refine ⟨hbelow, fun _ => ?_⟩
    cases rest with
    | nil => simp [follow_nil hplace] at h
    | cons next rest => exact hlast (List.cons_ne_nil _ _)
  | case4 place rest hplace hname ih => exact absurd List.mem_cons_self hup
  | case6 place name rest hplace hstays hup' hname next e hnext ih =>
    obtain ⟨hbelow, hlast⟩ := ih (List.not_mem_of_not_mem_cons hup) h
    refine ⟨(List.prefix_append place [name]).trans hbelow, fun _ => ?_⟩
    cases rest with
    | nil =>
      rw [follow_nil hnext] at h
      obtain ⟨rfl, rfl⟩ := Target.found.inj h
      simp [next]
    | cons next rest => exact hlast (List.cons_ne_nil _ _)
  | _ => cases h

/-! ## Going up -/

/-- A path leads nowhere because something is missing, be it only at its end. -/
def Target.isAbsent : Target → Bool
  | .free _ _ | .missing => true
  | _ => false

/-- Wherever names go up, they go up from what is there, unless they do not get that far. -/
def Anchored (d : Disk) (place : Place) (names : List String) : Prop :=
  ∀ before after, names = before ++ ".." :: after → ¬ (d.follow place before).isAbsent

theorem anchored_of_not_mem (h : ".." ∉ names) : d.Anchored place names := by
  rintro before after rfl
  simp at h

/-- What is left of names after a step. -/
theorem Anchored.step {name : String} (h : d.Anchored place (name :: names))
    (hstep : ∀ rest, d.follow place (name :: rest) = d.follow other rest) :
    d.Anchored other names := by
  rintro before after rfl
  rw [← hstep]
  exact h (name :: before) after rfl

/-- A name of something missing leads nowhere, whatever follows. -/
theorem isAbsent_follow_cons {name : String} (hplace : d.entry? place = some .folder)
    (hstays : ¬ Path.staysPut name) (hup : name ≠ "..") (hname : isName name)
    (hnext : d.entry? (place ++ [name]) = none) (names : List String) :
    (d.follow place (name :: names)).isAbsent := by
  simp only [follow, hplace, if_neg hstays, if_neg hup, hname, hnext]
  split
  · cases ‹_›
  · split <;> rfl

/-- There is no way up behind something missing. -/
theorem Anchored.not_mem {name : String} (h : d.Anchored place (name :: names))
    (habsent : ∀ rest, (d.follow place (name :: rest)).isAbsent) : ".." ∉ names := by
  intro hmem
  obtain ⟨before, after, rfl⟩ := List.append_of_mem hmem
  exact h (name :: before) after rfl (habsent before)

/-! ## Files on a disk that has grown -/

/-- A path that goes down through something new ends in something new. -/
theorem Keeps.follow_new (h : Keeps d s) (hd : d.IsTree) {name : String}
    (hplace : d.entry? place = some .folder) (hnext : d.entry? (place ++ [name]) = none)
    (hstays : ¬ Path.staysPut name) (hup : name ≠ "..") (hname : isName name)
    (hrest : ".." ∉ names)
    (hfile : s.follow place (name :: names) = .found other (.file bytes)) :
    d.entry? other = none ∧ (name :: names).getLast? = other.getLast? := by
  have hboth : ".." ∉ name :: names := by simp [hup.symm, hrest]
  have hlast := (getLast?_of_follow_found hboth hfile).2 (List.cons_ne_nil _ _)
  obtain ⟨e, he⟩ : ∃ e, s.entry? (place ++ [name]) = some e := by
    refine Option.ne_none_iff_exists'.mp fun hnone => ?_
    have habsent := isAbsent_follow_cons (h.entry_eq hplace) hstays hup hname hnone names
    rw [hfile] at habsent
    cases habsent
  rw [follow_cons_down (h.entry_eq hplace) hstays hup hname he] at hfile
  exact ⟨hd.entry_of_prefix (getLast?_of_follow_found hrest hfile).1 hnext, hlast⟩

/-- Nothing new is at the root, so a path to something new has a last name. -/
theorem getLast?_cons_of_new {name : String} (hnone : d.entry? other = none)
    (hlast : names.getLast? = other.getLast?) : (name :: names).getLast? = other.getLast? := by
  cases names with
  | nil =>
    obtain rfl : other = [] := List.getLast?_eq_none_iff.mp hlast.symm
    rw [entry_eq_folder List.nil_prefix] at hnone
    nomatch hnone
  | cons next names => rw [List.getLast?_cons_cons, hlast]

/-- A path leads to a file on a disk that has grown if it did before, or if the file is new and has
the last name of the path. -/
theorem Keeps.follow_file (h : Keeps d s) (hd : d.IsTree) (hplace : d.entry? place ≠ none)
    (hanchored : d.Anchored place names)
    (hfile : s.follow place names = .found other (.file bytes)) :
    d.follow place names = .found other (.file bytes) ∨
      d.entry? other = none ∧ names.getLast? = other.getLast? := by
  have hcons {found : Prop} {name : String} {rest : List String}
      (hrest : found ∨ d.entry? other = none ∧ rest.getLast? = other.getLast?) :
      found ∨ d.entry? other = none ∧ (name :: rest).getLast? = other.getLast? :=
    hrest.imp_right fun ⟨hnone, hlast⟩ => ⟨hnone, getLast?_cons_of_new hnone hlast⟩
  -- The induction is on the names that are left, on the way through what was there before. Where
  -- the path leaves that, it goes down only.
  fun_induction d.follow place names with
  | case1 place e he =>
    rw [follow_nil (h.entry_eq he)] at hfile
    exact .inl hfile
  | case2 place hnone => exact absurd hnone hplace
  | case3 place name rest hfolder hname ih =>
    rw [follow_cons_of_staysPut (h.entry_eq hfolder) hname] at hfile
    exact hcons (ih hplace (hanchored.step (follow_cons_of_staysPut hfolder hname)) hfile)
  | case4 place rest hfolder hname ih =>
    rw [follow_cons_up (h.entry_eq hfolder)] at hfile
    exact hcons (ih (hd.entry_dropLast hplace) (hanchored.step (follow_cons_up hfolder)) hfile)
  | case5 place name rest hfolder hstays hup hname =>
    simp [follow, h.entry_eq hfolder, hstays, hup, hname] at hfile
  | case6 place name rest hfolder hstays hup hname next e hnext ih =>
    have hok : isName name := by simpa using hname
    rw [follow_cons_down (h.entry_eq hfolder) hstays hup hok (h.entry_eq hnext)] at hfile
    exact hcons (ih (by simp [hnext])
      (hanchored.step (follow_cons_down hfolder hstays hup hok hnext)) hfile)
  | case7 place name rest hfolder hstays hup hname next hnext
  | case8 place name rest hfolder hstays hup hname next hnext =>
    have hok : isName name := by simpa using hname
    have hdown : ".." ∉ rest :=
      hanchored.not_mem (isAbsent_follow_cons hfolder hstays hup hok hnext)
    exact .inr (h.follow_new hd hfolder hnext hstays hup hok hdown hfile)
  | case9 place name rest old hold => simp [follow, h.entry_eq hold] at hfile
  | case10 place name rest hnone => exact absurd hnone hplace

/-! ## What paths read -/

/-- A path goes up from what is there only. A folder that is made where one is missing cannot turn
it to something else that is there. -/
def Steady (d : Disk) (path : String) : Prop :=
  d.Anchored (d.start path) (Path.segments path)

/-- What a path leads to is kept. -/
theorem Keeps.resolve_found (h : Keeps d s) (hfound : d.resolve path = .found place entry) :
    s.resolve path = .found place entry := by
  have hfollow := resolve_eq_follow hfound nofun nofun
  rw [hfollow d] at hfound
  rw [hfollow s, start_eq h.home_eq, h.follow_found hfound]

/-- What a path reads is kept, if it reads anything. -/
theorem Keeps.read?_eq (h : Keeps d s) (hread : d.read? path ≠ none) :
    s.read? path = d.read? path := by
  obtain ⟨bytes, hbytes⟩ := Option.ne_none_iff_exists'.mp hread
  obtain ⟨place, hplace⟩ := read?_eq_some_iff.mp hbytes
  rw [hbytes, read?_eq_some_iff.mpr ⟨place, h.resolve_found hplace⟩]

/-- What a steady path reads is kept, unless there is a new file at its end. -/
theorem Keeps.read?_eq_or (h : Keeps d s) (hd : d.IsTree) (hsteady : d.Steady path) :
    s.read? path = d.read? path ∨
      ∃ place, s.file? place ≠ none ∧ d.entry? place = none ∧
        (Path.segments path).getLast? = place.getLast? := by
  by_cases hold : d.read? path = none
  · cases hread : s.read? path with
    | none => exact .inl hold.symm
    | some bytes =>
      obtain ⟨place, hplace⟩ := read?_eq_some_iff.mp hread
      have hfollow := resolve_eq_follow hplace nofun nofun
      have hfolder : d.entry? (d.start path) = some .folder := entry_eq_folder (d.start_prefix path)
      rw [hfollow s, start_eq h.home_eq] at hplace
      rcases h.follow_file hd (by simp [hfolder]) hsteady hplace with hfound | ⟨hnone, hlast⟩
      · rw [read?_eq_some_iff.mpr ⟨place, (hfollow d).trans hfound⟩] at hold
        nomatch hold
      · have hthere := entry_of_follow_found hplace
        exact .inr ⟨place, by simp [file?, hthere], hnone, hlast⟩
  · exact .inl (h.read?_eq hold)

end TaskDesk.Disk
