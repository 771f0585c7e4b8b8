import Mathlib.Data.List.Nodup
import Mathlib.Data.List.Perm.Basic
import TaskDesk.Json.Record

/-!
# Records that are written and read

An object keeps its members in the order of their keys, and a record is read from it member by
member by name. So as long as no key is written twice, a reader of records finds the members that
were written, whatever their order. What it makes of a member is said here for the readers of
single values, both ways.

## Main definitions

- `Json.Source.KeepsNull` — only `null` is kept as `null`

## Main results

- `Json.member?_object` — what an object has under a key
- `Json.exists_object_perm` — an object has the members that were written
- `Json.exists_fields_object` — a record is read from them as they were written
- `Json.keepsNull_json`, `Json.keepsNull_nested` — values and documents keep `null` as it is
-/

namespace TaskDesk.Json

/-! ## Objects -/

theorem insert_perm {key : String} {value : Json} {members : List (String × Json)}
    (h : key ∉ members.map Prod.fst) :
    (insert key value members).Perm ((key, value) :: members) := by
  induction members with
  | nil => exact .refl _
  | cons first rest ih =>
    obtain ⟨k, v⟩ := first
    rw [List.map_cons, List.mem_cons, not_or] at h
    obtain ⟨hne, hrest⟩ := h
    rw [insert, if_neg (Ne.symm hne)]
    split
    · exact .refl _
    · exact ((ih hrest).cons (k, v)).trans (.swap _ _ _)

theorem foldl_insert_perm {members acc : List (String × Json)}
    (h : ((acc ++ members).map Prod.fst).Nodup) :
    (members.foldl (fun acc (k, v) => insert k v acc) acc).Perm (acc ++ members) := by
  induction members generalizing acc with
  | nil =>
    rw [List.append_nil]
    exact .refl _
  | cons first rest ih =>
    obtain ⟨k, v⟩ := first
    have hmiddle : (acc ++ (k, v) :: rest).Perm ((k, v) :: (acc ++ rest)) := List.perm_middle
    have hnodup := (hmiddle.map Prod.fst).nodup_iff.mp h
    rw [List.map_cons, List.nodup_cons] at hnodup
    have hnew : k ∉ acc.map Prod.fst := by
      intro hmem
      refine hnodup.1 ?_
      rw [List.map_append]
      exact List.mem_append_left _ hmem
    have hinsert : (insert k v acc ++ rest).Perm ((k, v) :: (acc ++ rest)) :=
      (insert_perm hnew).append_right rest
    rw [List.foldl_cons]
    refine (ih ?_).trans (hinsert.trans hmiddle.symm)
    rw [(hinsert.map Prod.fst).nodup_iff, List.map_cons, List.nodup_cons]
    exact hnodup

/-- An object has the members that were written. -/
theorem exists_object_perm {members : List (String × Json)} (h : (members.map Prod.fst).Nodup) :
    ∃ sorted, object members = .obj sorted ∧ sorted.Perm members :=
  ⟨_, rfl, foldl_insert_perm h⟩

@[simp] theorem lookup_insert_self (key : String) (value : Json)
    (members : List (String × Json)) : (insert key value members).lookup key = some value := by
  induction members with
  | nil => exact List.lookup_cons_self
  | cons first rest ih =>
    obtain ⟨k, v⟩ := first
    unfold insert
    split_ifs with hk
    · exact List.lookup_cons_self
    · exact List.lookup_cons_self
    · rw [List.lookup_cons, beq_false_of_ne (Ne.symm hk), ih]

theorem lookup_insert_of_ne {key other : String} (h : other ≠ key) (value : Json)
    (members : List (String × Json)) :
    (insert key value members).lookup other = members.lookup other := by
  have hskip (rest : List (String × Json)) :
      ((key, value) :: rest).lookup other = rest.lookup other := by
    rw [List.lookup_cons, beq_false_of_ne h]
  induction members with
  | nil => exact hskip []
  | cons first rest ih =>
    obtain ⟨k, v⟩ := first
    unfold insert
    split_ifs with hk
    · rw [hskip, List.lookup_cons, beq_false_of_ne (hk ▸ h)]
    · exact hskip _
    · rw [List.lookup_cons, List.lookup_cons, ih]

theorem lookup_foldl_insert (key : String) (members acc : List (String × Json)) :
    (members.foldl (fun acc (k, v) => insert k v acc) acc).lookup key =
      (members.reverse ++ acc).lookup key := by
  induction members generalizing acc with
  | nil => rfl
  | cons first rest ih =>
    obtain ⟨k, v⟩ := first
    rw [List.foldl_cons, ih, List.reverse_cons, List.append_assoc, List.singleton_append,
      List.lookup_append, List.lookup_append]
    congr 1
    by_cases hk : key = k
    · subst hk
      rw [lookup_insert_self, List.lookup_cons_self]
    · rw [lookup_insert_of_ne hk, List.lookup_cons, beq_false_of_ne hk]

/-- Members that are gathered by their keys say what they were gathered from. -/
theorem lookup_filterMap (key : String) (keys : List String) (said : String → Option Json) :
    (keys.filterMap fun k => (said k).map fun v => (k, v)).lookup key =
      if key ∈ keys then said key else none := by
  induction keys with
  | nil => rfl
  | cons k keys ih =>
    by_cases hkey : k = key
    · subst hkey
      cases hsaid : said k with
      | none => simp [hsaid, ih]
      | some v => simp [hsaid]
    · cases hsaid : said k <;>
        simp [hsaid, ih, List.lookup_cons, beq_false_of_ne (Ne.symm hkey), Ne.symm hkey]

/-- Of two members of one key the later one counts. -/
theorem member?_object (members : List (String × Json)) (key : String) :
    (object members).member? key = members.reverse.lookup key := by
  rw [object, member?, lookup_foldl_insert, List.append_nil]

/-! ## Fields -/

namespace Fields

theorem keyed?_some {σ : Type} (members : List (String × σ)) :
    keyed? (members.map fun (k, s) => (some k, s)) = some members := by
  induction members with
  | nil => rfl
  | cons first rest ih =>
    simp only [List.map_cons, keyed?]
    rw [ih]
    rfl

/-- Where the members stand does not matter. -/
theorem slot?_perm {σ : Type} {members others : List (String × σ)} (h : members.Perm others)
    (position : Nat) (names : List String) :
    (named members).slot? position names = (named others).slot? position names := by
  have hfilter := h.filter fun (k, _) => names.contains k
  simp only [slot?]
  generalize members.filter (fun (k, _) => names.contains k) = found at hfilter
  generalize others.filter (fun (k, _) => names.contains k) = also at hfilter
  have hlength := hfilter.length_eq
  match found, also with
  | [], [] => rfl
  | [x], [y] =>
    obtain rfl := List.singleton_inj.mp (List.perm_singleton.mp hfilter)
    rfl
  | _ :: _ :: _, _ :: _ :: _ => rfl
  | [], _ :: _ | _ :: _, [] | [_], _ :: _ :: _ | _ :: _ :: _, [_] => simp at hlength

/-- What stands for a field of one name is what the object has under it. -/
theorem eq_lookup_of_slot? {members : List (String × Json)} {position : Nat} {name : String}
    {slot : Option Json} (h : (named members).slot? position [name] = some slot) :
    slot = members.lookup name := by
  have hlookup : ((members.filter fun (k, _) => [name].contains k).map Prod.snd).head? =
      members.lookup name := by
    clear h
    induction members with
    | nil => rfl
    | cons first members ih =>
      obtain ⟨k, v⟩ := first
      by_cases hk : k = name
      · subst hk
        rw [List.filter_cons_of_pos (by simp), List.lookup_cons_self]
        rfl
      · rw [List.filter_cons_of_neg (by simpa using hk), List.lookup_cons,
          beq_false_of_ne (Ne.symm hk), ih]
  rw [← hlookup]
  unfold slot? at h
  dsimp only at h
  generalize members.filter (fun (k, _) => [name].contains k) = found at h ⊢
  match found with
  | [] => exact (Option.some.inj h).symm
  | [(_, _)] => exact (Option.some.inj h).symm
  | _ :: _ :: _ => nomatch h

theorem exists_lookup_of_required? {α : Type} {members : List (String × Json)} {position : Nat}
    {name : String} {read : Json → Option α} {a : α}
    (h : (named members).required? position [name] read = some a) :
    ∃ v, members.lookup name = some v ∧ read v = some a := by
  simp only [required?, Option.bind_eq_bind, Option.bind_eq_some_iff] at h
  obtain ⟨slot, hslot, h⟩ := h
  rw [← eq_lookup_of_slot? hslot]
  cases slot with
  | none => nomatch h
  | some v => exact ⟨v, rfl, h⟩

theorem lookup_of_withDefault? {α : Type} {members : List (String × Json)} {position : Nat}
    {name : String} {default a : α} {read : Json → Option α}
    (h : (named members).withDefault? position [name] default read = some a) :
    (∃ v, members.lookup name = some v ∧ read v = some a) ∨
      members.lookup name = none ∧ a = default := by
  simp only [withDefault?, Option.bind_eq_bind, Option.bind_eq_some_iff] at h
  obtain ⟨slot, hslot, h⟩ := h
  rw [← eq_lookup_of_slot? hslot]
  cases slot with
  | none => exact .inr ⟨rfl, (Option.some.inj h).symm⟩
  | some v => exact .inl ⟨v, rfl, h⟩

theorem read_or_default {σ α : Type} {fields : Fields σ} {position : Nat}
    {names : List String} {default a : α} {read : σ → Option α}
    (h : fields.withDefault? position names default read = some a) :
    (∃ s, read s = some a) ∨ a = default := by
  simp only [withDefault?, Option.bind_eq_bind, Option.bind_eq_some_iff] at h
  obtain ⟨slot, -, h⟩ := h
  cases slot with
  | none => exact .inr (Option.some.inj h).symm
  | some s => exact .inl ⟨s, h⟩

end Fields

/-- A record is read from an object by the members as they were written. -/
theorem exists_fields_object {members : List (String × Json)} (h : (members.map Prod.fst).Nodup)
    (count : Nat) :
    ∃ fields, Fields.of? count (object members) = some fields ∧
      ∀ position names, fields.slot? position names =
        (Fields.named members).slot? position names := by
  obtain ⟨sorted, hobject, hperm⟩ := exists_object_perm h
  refine ⟨.named sorted, ?_, Fields.slot?_perm hperm⟩
  rw [hobject]
  simp only [Fields.of?, Source.look]
  rw [Fields.keyed?_some]
  rfl

/-! ## Single values -/

/-- Only `null` is kept as `null`. -/
def Source.KeepsNull (σ : Type) [Source σ] : Prop :=
  ∀ s : σ, Source.keep s = some .null → Source.look s = .null

theorem keepsNull_json : Source.KeepsNull Json := by
  intro s hs
  obtain rfl := Option.some.inj hs
  rfl

theorem Document.eq_null_of_value? {depth : Nat} {d : Document}
    (h : d.value? depth = some .null) : d = .null := by
  cases d with
  | null => rfl
  | bool b => cases h
  | num n =>
    obtain ⟨n, -, hn⟩ := Option.map_eq_some_iff.mp h
    cases hn
  | str text =>
    obtain ⟨text, -, htext⟩ := Option.map_eq_some_iff.mp h
    cases htext
  | arr items =>
    cases depth with
    | zero => cases h
    | succ depth =>
      obtain ⟨values, -, hvalues⟩ := Option.map_eq_some_iff.mp h
      cases hvalues
  | obj members =>
    cases depth with
    | zero => cases h
    | succ depth =>
      obtain ⟨values, -, hvalues⟩ := Option.map_eq_some_iff.mp h
      cases hvalues

theorem keepsNull_nested : Source.KeepsNull Nested := by
  intro s hs
  have hnull : s.document = .null := Document.eq_null_of_value? hs
  simp [Source.look, hnull]

namespace Read

theorem nullable_any {v : Option Json} (h : v ≠ some .null) :
    nullable any (v.getD .null) = some v := by
  cases v with
  | none => rfl
  | some v =>
    cases v with
    | null => exact absurd rfl h
    | _ => rfl

/-- What may be `null` and is not is never `null` when it is kept. -/
theorem ne_null_of_nullable_any {σ : Type} [Source σ] (hσ : Source.KeepsNull σ) {s : σ}
    {v : Option Json} (h : nullable any s = some v) : v ≠ some .null := by
  rintro rfl
  unfold nullable at h
  split at h
  · cases h
  · next hlook =>
    obtain ⟨v, hkeep, hv⟩ := Option.map_eq_some_iff.mp h
    obtain rfl := Option.some.inj hv
    exact hlook (hσ s hkeep)

theorem nullable_string (text : Option String) :
    nullable string (Json.ofOption .str text) = some text := by
  cases text <;> rfl

theorem list_arr {α : Type} {read : Json → Option α} {write : α → Json} {xs : List α}
    (h : ∀ x ∈ xs, read (write x) = some x) : list read (.arr (xs.map write)) = some xs := by
  change (xs.map write).mapM read = some xs
  induction xs with
  | nil => rfl
  | cons x xs ih =>
    obtain ⟨hx, hxs⟩ := List.forall_mem_cons.mp h
    rw [List.map_cons, List.mapM_cons, hx, ih hxs]
    rfl

/-- What is read as a list is read one by one. -/
theorem exists_of_mem_list {σ α : Type} [Source σ] {read : σ → Option α} {s : σ} {xs : List α}
    (h : list read s = some xs) {x : α} (hx : x ∈ xs) : ∃ item, read item = some x := by
  unfold list at h
  split at h
  · next items hlook =>
    clear hlook
    induction items generalizing xs with
    | nil =>
      obtain rfl := Option.some.inj h
      cases hx
    | cons item items ih =>
      simp only [List.mapM_cons, Option.bind_eq_bind, Option.bind_eq_some_iff] at h
      obtain ⟨y, hy, ys, hys, h⟩ := h
      obtain rfl := Option.some.inj h
      rcases List.mem_cons.mp hx with rfl | hx
      · exact ⟨item, hy⟩
      · exact ih hx hys
  · cases h

theorem natUpTo_nat {bound n : Nat} (h : n ≤ bound) : natUpTo bound (Json.nat n) = some n := by
  have hrange : (0 : Int) ≤ n ∧ (n : Int) ≤ bound := by omega
  simp only [natUpTo, Source.look, Json.nat, if_pos hrange]
  rfl

theorem le_of_natUpTo {σ : Type} [Source σ] {bound n : Nat} {s : σ}
    (h : natUpTo bound s = some n) : n ≤ bound := by
  unfold natUpTo at h
  split at h
  · split at h
    · obtain rfl := Option.some.inj h
      omega
    · cases h
  · cases h

end Read

end TaskDesk.Json
