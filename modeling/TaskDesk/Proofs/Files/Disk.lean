import Mathlib.Data.List.Basic
import TaskDesk.Files.Disk

/-!
# Where paths lead

A disk is a map, so what is put at a place is found there and everything else stays where it was.
A path that leads to a file, or to a free name for one, passes through folders only. Hence it still
leads there when a file is moved to that place from elsewhere.

## Main definitions

- `Disk.Target.filePlace?` — the place that a path names for a file

## Main results

- `Disk.remove_put` — something put at a free place and removed again leaves no trace
- `Disk.resolve_rename` — a path leads to what was moved to it
-/

namespace TaskDesk.Disk

variable {d : Disk} {place other : Place} {entry : DiskEntry}

/-! ## The map -/

@[simp] theorem home_put (d : Disk) (place : Place) (entry : DiskEntry) :
    (d.put place entry).home = d.home :=
  rfl

@[simp] theorem home_remove (d : Disk) (place : Place) : (d.remove place).home = d.home :=
  rfl

theorem entries_put (d : Disk) (place : Place) (entry : DiskEntry) :
    (d.put place entry).entries = (place, entry) :: d.entries.filter (·.1 ≠ place) :=
  rfl

theorem entries_remove (d : Disk) (place : Place) :
    (d.remove place).entries = d.entries.filter (·.1 ≠ place) :=
  rfl

/-- The working folder and what is above it are folders. -/
theorem entry_eq_folder (h : place <+: d.home) : d.entry? place = some .folder :=
  if_pos (List.isPrefixOf_iff_prefix.mpr h)

theorem entry_eq_lookup (h : ¬ place <+: d.home) :
    d.entry? place = d.entries.lookup place :=
  if_neg (mt List.isPrefixOf_iff_prefix.mp h)

theorem not_prefix_of_entry (h : d.entry? place ≠ some .folder) : ¬ place <+: d.home :=
  fun hprefix => h (entry_eq_folder hprefix)

theorem not_prefix_of_entry_none (h : d.entry? place = none) : ¬ place <+: d.home :=
  not_prefix_of_entry (h ▸ nofun)

theorem lookup_filter_of_ne (entries : List (Place × DiskEntry)) (h : other ≠ place) :
    (entries.filter (·.1 ≠ place)).lookup other = entries.lookup other := by
  induction entries with
  | nil => rfl
  | cons first entries ih =>
    by_cases hfirst : first.1 = place
    · have hother : (other == first.1) = false := beq_eq_false_iff_ne.mpr (hfirst ▸ h)
      rw [List.filter_cons_of_neg (by simp [hfirst]), ih, List.lookup_cons, hother]
    · rw [List.filter_cons_of_pos (by simp [hfirst]), List.lookup_cons, List.lookup_cons, ih]

theorem entry_remove_of_ne (h : other ≠ place) :
    Disk.entry? (d.remove place) other = d.entry? other := by
  unfold Disk.entry?
  rw [home_remove, entries_remove, lookup_filter_of_ne d.entries h]

theorem entry_put_of_ne (h : other ≠ place) :
    Disk.entry? (d.put place entry) other = d.entry? other := by
  have hother : (other == place) = false := beq_eq_false_iff_ne.mpr h
  unfold Disk.entry?
  rw [home_put, entries_put, List.lookup_cons, hother, lookup_filter_of_ne d.entries h]

theorem entry_put_self (h : ¬ place <+: d.home) :
    Disk.entry? (d.put place entry) place = some entry := by
  have hput : ¬ place <+: (d.put place entry).home := h
  rw [entry_eq_lookup hput, entries_put, List.lookup_cons_self]

theorem put_put (first : DiskEntry) :
    (d.put place first).put place entry = d.put place entry := by
  simp [put, List.filter_filter]

/-- Something put at a free place and removed again leaves no trace. -/
theorem remove_put (h : d.entry? place = none) : (d.put place entry).remove place = d := by
  have hprefix : ¬ place <+: d.home := not_prefix_of_entry_none h
  have hfree : ∀ e ∈ d.entries, e.1 ≠ place := by
    rw [entry_eq_lookup hprefix, List.lookup_eq_none_iff] at h
    intro e he hplace
    simpa [hplace] using h e he
  have hkept : d.entries.filter (·.1 ≠ place) = d.entries :=
    List.filter_eq_self.mpr fun e he => decide_eq_true (hfree e he)
  have hentries : ((d.put place entry).remove place).entries = d.entries := by
    rw [entries_remove, entries_put, List.filter_cons_of_neg (by simp), hkept, hkept]
  cases d
  exact congrArg₂ Disk.mk hentries rfl

/-! ## Following paths -/

namespace Target

/-- The place that a path names for a file: one that is there, or a free one. -/
def filePlace? : Target → Option Place
  | .found place (.file _) => some place
  | .free place false => some place
  | _ => none

theorem filePlace?_eq_some_iff {t : Target} :
    t.filePlace? = some place ↔
      (∃ bytes, t = .found place (.file bytes)) ∨ t = .free place false := by
  rcases t with ⟨p, bytes | _⟩ | ⟨p, _ | _⟩ | _ | _ <;> simp [filePlace?, eq_comm]

end Target

theorem rename?_eq (d : Disk) (source : Place) (path : String) :
    d.rename? source path =
      (d.resolve path).filePlace?.bind fun target =>
        (d.entry? source).map fun entry => (d.remove source).put target entry := by
  unfold rename?
  rcases d.resolve path with ⟨p, bytes | _⟩ | ⟨p, _ | _⟩ | _ | _ <;> rfl

theorem follow_of_entry_none (h : d.entry? place = none) (names : List String) :
    d.follow place names = .missing := by
  cases names <;> simp only [follow, h]

theorem follow_cons_of_staysPut (hplace : d.entry? place = some .folder) {name : String}
    (hname : Path.staysPut name) (rest : List String) :
    d.follow place (name :: rest) = d.follow place rest := by
  simp only [follow, hplace, if_pos hname]

theorem follow_cons_up (hplace : d.entry? place = some .folder) (rest : List String) :
    d.follow place (".." :: rest) = d.follow place.dropLast rest := by
  simp only [follow, hplace]
  rfl

/-- A name leads on to what is there. -/
theorem follow_cons_down (hplace : d.entry? place = some .folder) {name : String}
    (hstays : ¬ Path.staysPut name) (hup : name ≠ "..") (hname : isName name)
    (hnext : d.entry? (place ++ [name]) = some entry) (rest : List String) :
    d.follow place (name :: rest) = d.follow (place ++ [name]) rest := by
  simp only [follow, hplace, if_neg hstays, if_neg hup, hname, hnext]
  rfl

theorem entry_of_follow_found {names : List String}
    (h : d.follow place names = .found other entry) : d.entry? other = some entry := by
  fun_induction d.follow place names with
  | case1 place e he =>
    obtain ⟨rfl, rfl⟩ := Target.found.inj h
    exact he
  | _ => simp_all

theorem entry_of_follow_free {names : List String} {slash : Bool}
    (h : d.follow place names = .free other slash) : d.entry? other = none := by
  fun_induction d.follow place names <;> simp_all

/-- Where a file can be, there is no folder. -/
theorem entry_ne_folder_of_filePlace? {names : List String}
    (h : (d.follow place names).filePlace? = some other) : d.entry? other ≠ some .folder := by
  rcases Target.filePlace?_eq_some_iff.mp h with ⟨bytes, h⟩ | h
  · simp [entry_of_follow_found h]
  · simp [entry_of_follow_free h]

/-- A path is followed through folders only: no file on the disk matters but the last one. -/
theorem follow_of_moved {d d' : Disk} {source target : Place} {old new : List UInt8}
    (hsource : d.entry? source = some (.file old)) (htarget : d'.entry? target = some (.file new))
    (hframe : ∀ p, p ≠ source → p ≠ target → d'.entry? p = d.entry? p)
    {place : Place} {names : List String}
    (h : (d.follow place names).filePlace? = some target) :
    d'.follow place names = .found target (.file new) := by
  have hfile : d.entry? target ≠ some .folder := entry_ne_folder_of_filePlace? h
  have hfolder {p : Place} (hp : d.entry? p = some .folder) : d'.entry? p = some .folder := by
    rw [hframe p, hp]
    · rintro rfl
      simp [hsource] at hp
    · rintro rfl
      exact hfile hp
  -- The induction is on the names that are left; every place before the last one is a folder, so
  -- it is neither the source nor the target.
  fun_induction d.follow place names with
  | case1 place entry he =>
    cases entry with
    | file bytes =>
      obtain rfl : place = target := Option.some.inj h
      exact follow_nil htarget
    | folder => nomatch h
  | case3 place name rest hplace hname ih =>
    rw [follow_cons_of_staysPut (hfolder hplace) hname]
    exact ih h
  | case4 place rest hplace hname ih =>
    rw [follow_cons_up (hfolder hplace)]
    exact ih h
  | case6 place name rest hplace hstays hup hname next entry hnext ih =>
    -- The next place may be the target, so all that is known is that something is there.
    have hfound := ih h
    obtain ⟨e, he⟩ : ∃ e, d'.entry? (place ++ [name]) = some e := by
      refine Option.ne_none_iff_exists'.mp fun hnone => ?_
      rw [follow_of_entry_none hnone] at hfound
      nomatch hfound
    rw [follow_cons_down (hfolder hplace) hstays hup (by simpa using hname) he]
    exact hfound
  | case7 place name rest hplace hstays hup hname next hnext hrest =>
    obtain rfl : rest = [] := by
      by_contra hne
      simp [Target.filePlace?, hne] at h
    obtain rfl : place ++ [name] = target := Option.some.inj h
    rw [follow_cons_down (hfolder hplace) hstays hup (by simpa using hname) htarget]
    exact follow_nil htarget
  | _ => nomatch h

/-- Where a path begins. -/
def start (d : Disk) (path : String) : Place :=
  if Path.isAbsolute path then [] else d.home

theorem start_prefix (d : Disk) (path : String) : d.start path <+: d.home := by
  unfold start
  split
  · exact List.nil_prefix
  · exact List.prefix_rfl

theorem start_eq {d d' : Disk} (h : d'.home = d.home) (path : String) :
    d'.start path = d.start path := by
  rw [start, start, h]

/-- A path that leads anywhere on some disk is followed on every disk. -/
theorem resolve_eq_follow {path : String} {t : Target} (h : d.resolve path = t)
    (hmissing : t ≠ .missing) (hblocked : t ≠ .blocked) (d' : Disk) :
    d'.resolve path = d'.follow (d'.start path) (Path.segments path) := by
  have hempty : path ≠ "" := by
    rintro rfl
    exact hmissing h.symm
  have hshort : ¬ Path.isTooLong path := by
    intro hlong
    rw [resolve, if_neg hempty, if_pos hlong] at h
    exact hblocked h.symm
  rw [resolve, if_neg hempty, if_neg hshort, start]
  split <;> rfl

theorem entry_of_resolve_found {path : String} (h : d.resolve path = .found place entry) :
    d.entry? place = some entry := by
  rw [resolve_eq_follow h nofun nofun] at h
  exact entry_of_follow_found h

theorem resolve_eq_follow_of_filePlace? {path : String}
    (h : (d.resolve path).filePlace? = some place) (d' : Disk) :
    d'.resolve path = d'.follow (d'.start path) (Path.segments path) := by
  rcases Target.filePlace?_eq_some_iff.mp h with ⟨bytes, hfound⟩ | hfree
  · exact resolve_eq_follow hfound nofun nofun d'
  · exact resolve_eq_follow hfree nofun nofun d'

/-- A path leads to the file that was moved to it. -/
theorem resolve_rename {d d' : Disk} {source : Place} {path : String} {bytes : List UInt8}
    (hsource : d.entry? source = some (.file bytes)) (h : d.rename? source path = some d') :
    ∃ target, (d.resolve path).filePlace? = some target ∧
      d' = (d.remove source).put target (.file bytes) ∧
        d'.resolve path = .found target (.file bytes) := by
  rw [rename?_eq, Option.bind_eq_some_iff] at h
  obtain ⟨target, htarget, h⟩ := h
  rw [hsource, Option.map_some, Option.some.injEq] at h
  have hfollow := resolve_eq_follow_of_filePlace? htarget
  refine ⟨target, htarget, h.symm, ?_⟩
  rw [hfollow d] at htarget
  have hhome : d'.home = d.home := by
    rw [← h]
    rfl
  have hprefix : ¬ target <+: d.home :=
    not_prefix_of_entry (entry_ne_folder_of_filePlace? htarget)
  rw [hfollow d', start_eq hhome, ← h]
  refine follow_of_moved hsource ?_ (fun p hp hp' => ?_) htarget
  · exact entry_put_self hprefix
  · rw [entry_put_of_ne hp', entry_remove_of_ne hp]

end TaskDesk.Disk
