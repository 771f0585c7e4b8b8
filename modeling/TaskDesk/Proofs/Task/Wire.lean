import Mathlib.Algebra.Group.Nat.Defs
import TaskDesk.Proofs.Json.Record
import TaskDesk.Proofs.Number.Whole
import TaskDesk.Proofs.Task.Status
import TaskDesk.Task.Wire

/-!
# Tasks that are written and read back

A task is written under one name for each field and read under several, its numbers are read as
`binary64` numbers and cut off, and its status is read from any spelling. What the writer leaves
open the reader has to settle in the same way, or a task would change on its way.

## Main definitions

- `TaskRecord.Regular` — what holds of every task that was read, up to the time it was made
- `TaskRecord.members` — the members of a task under any of the names that its fields have
- `TaskRecord.Stands` — what stands for each field of a task

## Main results

- `TaskRecord.read?_object_members` — a regular task is read back, whatever names are used
- `TaskRecord.regular_of_read?` — a task that was read is regular
- `TaskRecord.written_read_back` — tasks and pages survive to be written and read
-/

namespace TaskDesk

open Json

/-! ## Tasks -/

namespace TaskRecord

/-- What holds of every task that was read, up to the time it was made, which is a `binary64` number
on its way: its progress is at most 100, its result is not `null`, and its status is not a word
that spells a known one. -/
structure Regular (t : TaskRecord) : Prop where
  progress_le : t.progress ≤ 100
  createdAt_le : t.createdAt.natAbs ≤ 2 ^ 53
  result_ne : t.result ≠ some .null
  known?_eq : ∀ word, t.status = .unknown word → TaskStatus.known? word = none

theorem progressOf_le (x : Binary64) : progressOf x ≤ 100 := by
  unfold progressOf
  split
  · exact Nat.zero_le _
  · exact Nat.min_le_left _ _

theorem progressOf_ofInt {n : Nat} (h : n ≤ 100) : progressOf (Binary64.ofInt n) = n := by
  have hsmall : n ≤ 2 ^ 53 := Nat.le_trans h (by decide)
  obtain ⟨hsign, hwhole⟩ := Binary64.whole_ofNat hsmall
  rw [Binary64.ofInt_natCast, progressOf, hsign, hwhole, if_neg Bool.false_ne_true]
  exact Nat.min_eq_right h

theorem secondsOf_ofInt {i : Int} (h : i.natAbs ≤ 2 ^ 53) :
    secondsOf (Binary64.ofInt i) = i := by
  rw [secondsOf, Binary64.truncate_ofInt h, Nat.pow_eq]
  omega

theorem Regular.isParsed {t : TaskRecord} (h : t.Regular) : t.status.IsParsed :=
  TaskStatus.isParsed_iff.mpr h.known?_eq

/-- The members of a task under some of the names that its fields have, and with some word for its
status. -/
def members (idName errorName word : String) (t : TaskRecord) : List (String × Json) :=
  [(idName, .str t.id), ("type", .str t.kind.label), ("status", .str word),
    ("progress", .nat t.progress), ("payload", t.payload), ("result", t.result.getD .null),
    (errorName, .ofOption .str t.error), ("created_at", .int t.createdAt)]

/-- What stands for each field of a task. -/
structure Stands (fields : Fields Json) (word : String) (t : TaskRecord) : Prop where
  id : fields.slot? 0 ["id", "task_id", "taskId"] = some (some (.str t.id))
  kind : fields.slot? 1 ["type"] = some (some (.str t.kind.label))
  status : fields.slot? 2 ["status"] = some (some (.str word))
  progress : fields.slot? 3 ["progress"] = some (some (.nat t.progress))
  payload : fields.slot? 4 ["payload"] = some (some t.payload)
  result : fields.slot? 5 ["result"] = some (some (t.result.getD .null))
  error : fields.slot? 6 ["error", "errorMsg"] = some (some (.ofOption .str t.error))
  createdAt : fields.slot? 7 ["created_at"] = some (some (.int t.createdAt))

theorem exists_stands (t : TaskRecord) {idName errorName : String}
    (hid : idName ∈ ["id", "task_id", "taskId"]) (herror : errorName ∈ ["error", "errorMsg"])
    (word : String) :
    ∃ fields, Fields.of? 8 (object (t.members idName errorName word)) = some fields ∧
      Stands fields word t := by
  simp only [List.mem_cons, List.not_mem_nil, or_false] at hid herror
  have hnodup : ((t.members idName errorName word).map Prod.fst).Nodup := by
    simp only [members, List.map_cons, List.map_nil]
    rcases hid with rfl | rfl | rfl <;> rcases herror with rfl | rfl <;> decide
  obtain ⟨fields, hfields, hslot⟩ := exists_fields_object hnodup 8
  refine ⟨fields, hfields, ?_⟩
  constructor <;> rw [hslot] <;>
    rcases hid with rfl | rfl | rfl <;> rcases herror with rfl | rfl <;>
      simp [Fields.slot?, members]

theorem Stands.read? {fields : Fields Json} {word : String} {t : TaskRecord}
    (h : Stands fields word t) (ht : t.Regular) (hword : TaskStatus.parse word = t.status)
    {s : Json} (hs : Fields.of? 8 s = some fields) : read? s = some t := by
  have hkind : Read.tag TaskKind.ofLabel? (Json.str t.kind.label) = some t.kind :=
    TaskKind.ofLabel?_label t.kind
  have hstring (text : String) : Read.string (Json.str text) = some text := rfl
  have hfloat (i : Int) : Read.nullable Read.float (Json.int i) = some (some (Binary64.ofInt i)) :=
    rfl
  have hany (v : Json) : Read.any v = some v := rfl
  have hnat (n : Nat) : Json.nat n = Json.int n := rfl
  rw [TaskRecord.read?, hs]
  simp only [Fields.required?, Fields.withDefault?, h.id, h.kind, h.status, h.progress, h.payload,
    h.result, h.error, h.createdAt, Option.bind_eq_bind, Option.bind_some, hkind, hstring, hfloat,
    hany, hnat, Read.nullable_any ht.result_ne, Read.nullable_string, hword, Option.map_some,
    Option.getD_some, progressOf_ofInt ht.progress_le, secondsOf_ofInt ht.createdAt_le]

/-- A regular task is read back, whatever names and whatever word for its status are used. -/
theorem read?_object_members {t : TaskRecord} (ht : t.Regular) {idName errorName word : String}
    (hid : idName ∈ ["id", "task_id", "taskId"]) (herror : errorName ∈ ["error", "errorMsg"])
    (hword : TaskStatus.parse word = t.status) :
    read? (object (t.members idName errorName word)) = some t := by
  obtain ⟨fields, hfields, hstands⟩ := t.exists_stands hid herror word
  exact hstands.read? ht hword hfields

theorem read?_toJson {t : TaskRecord} (ht : t.Regular) : read? t.toJson = some t :=
  read?_object_members ht (by decide) (by decide) ht.isParsed.parse_label

/-- A task that was read is regular. -/
theorem regular_of_read? {σ : Type} [Source σ] (hσ : Source.KeepsNull σ) {s : σ} {t : TaskRecord}
    (h : read? s = some t) (hcreated : t.createdAt.natAbs ≤ 2 ^ 53) : t.Regular := by
  simp only [read?, Option.bind_eq_bind, Option.bind_eq_some_iff] at h
  obtain ⟨fields, -, id, -, kind, -, word, -, progress, -, payload, -, result, hread, error, -,
    createdAt, -, ht⟩ := h
  have hprogress : (progress.map progressOf).getD 0 ≤ 100 := by
    cases progress with
    | none => exact Nat.zero_le _
    | some x => exact progressOf_le x
  have hresult : result ≠ some .null := by
    rcases Fields.read_or_default hread with ⟨v, hv⟩ | rfl
    · exact Read.ne_null_of_nullable_any hσ hv
    · nofun
  have hstatus : ∀ other, TaskStatus.parse word = .unknown other →
      TaskStatus.known? other = none :=
    fun _ => TaskStatus.known?_of_parse
  obtain rfl := Option.some.inj ht
  exact ⟨hprogress, hcreated, hresult, by simpa only using hstatus⟩

end TaskRecord

/-! ## Pages -/

namespace TaskPage

/-- What holds of every page that was read, up to the times its tasks were made. -/
structure Regular (p : TaskPage) : Prop where
  tasks : ∀ t ∈ p.tasks, t.Regular
  total_le : p.total ≤ 2 ^ 64 - 1
  page_le : p.page ≤ 2 ^ 32 - 1
  size_le : p.size ≤ 2 ^ 32 - 1

def members (p : TaskPage) : List (String × Json) :=
  [("data", .arr (p.tasks.map TaskRecord.toJson)), ("total", .nat p.total),
    ("page", .nat p.page), ("size", .nat p.size)]

/-- A regular page is read back. -/
theorem read?_toJson {p : TaskPage} (hp : p.Regular) : read? p.toJson = some p := by
  have hnodup : (p.members.map Prod.fst).Nodup := by
    simp only [members, List.map_cons, List.map_nil]
    decide
  obtain ⟨fields, hfields, hslot⟩ := exists_fields_object hnodup 4
  have hdata : fields.slot? 0 ["data"] = some (some (.arr (p.tasks.map TaskRecord.toJson))) := by
    rw [hslot]
    simp [Fields.slot?, members]
  have htotal : fields.slot? 1 ["total"] = some (some (.nat p.total)) := by
    rw [hslot]
    simp [Fields.slot?, members]
  have hpage : fields.slot? 2 ["page"] = some (some (.nat p.page)) := by
    rw [hslot]
    simp [Fields.slot?, members]
  have hsize : fields.slot? 3 ["size"] = some (some (.nat p.size)) := by
    rw [hslot]
    simp [Fields.slot?, members]
  have htasks : Read.list TaskRecord.read? (Json.arr (p.tasks.map TaskRecord.toJson)) =
      some p.tasks :=
    Read.list_arr fun t ht => TaskRecord.read?_toJson (hp.tasks t ht)
  have hobject : p.toJson = object p.members := rfl
  rw [read?, hobject, hfields]
  simp only [Fields.withDefault?, hdata, htotal, hpage, hsize, Option.bind_eq_bind,
    Option.bind_some, htasks, Read.nat64, Read.nat32, Nat.pow_eq, Read.natUpTo_nat hp.total_le,
    Read.natUpTo_nat hp.page_le, Read.natUpTo_nat hp.size_le]

/-- A page that was read is regular. -/
theorem regular_of_read? {σ : Type} [Source σ] (hσ : Source.KeepsNull σ) {s : σ} {p : TaskPage}
    (h : read? s = some p) (hcreated : ∀ t ∈ p.tasks, t.createdAt.natAbs ≤ 2 ^ 53) :
    p.Regular := by
  simp only [read?, Option.bind_eq_bind, Option.bind_eq_some_iff] at h
  obtain ⟨fields, -, tasks, htasks, total, htotal, page, hpage, size, hsize, hp⟩ := h
  obtain rfl := Option.some.inj hp
  have hbound {position bound default n : Nat} {names : List String}
      (h : fields.withDefault? position names default (Read.natUpTo bound) = some n)
      (hdefault : default ≤ bound) : n ≤ bound := by
    rcases Fields.read_or_default h with ⟨v, hv⟩ | rfl
    · exact Read.le_of_natUpTo hv
    · exact hdefault
  refine ⟨fun t ht => ?_, hbound htotal (by decide), hbound hpage (by decide),
    hbound hsize (by decide)⟩
  rcases Fields.read_or_default htasks with ⟨v, hv⟩ | rfl
  · obtain ⟨item, hitem⟩ := Read.exists_of_mem_list hv ht
    exact TaskRecord.regular_of_read? hσ hitem (hcreated t ht)
  · cases ht

end TaskPage

namespace TaskRecord

/-- A task in spellings that are never written. -/
private def spelledOtherwise : Json :=
  object
    [("taskId", .str "t1"), ("type", .str "video"), ("status", .str " Success "),
      ("progress", .int 250), ("result", .null), ("errorMsg", .str "slow"),
      ("created_at", .int (-5))]

/-- A regular task is what its record is read as, also if other names of its fields or other
spellings of its status are used, and so is a regular page. What is read as a task, from a value or
from a text, is a regular task unless it was made at a time beyond `2 ^ 53`, and it is also what its
own record is read as; so is what is read as a page. Records are values here, not texts: reading a
text rounds some fractions in payload and result. -/
theorem written_read_back :
    (∀ t : TaskRecord, t.Regular →
        read? t.toJson = some t ∧
          ∀ idName ∈ ["id", "task_id", "taskId"], ∀ errorName ∈ ["error", "errorMsg"], ∀ word,
            TaskStatus.parse word = t.status →
              read? (object (t.members idName errorName word)) = some t) ∧
      (∀ p : TaskPage, p.Regular → TaskPage.read? p.toJson = some p) ∧
      (∀ (v : Json) (t : TaskRecord), read? v = some t → t.createdAt.natAbs ≤ 2 ^ 53 →
        t.Regular ∧ read? t.toJson = some t) ∧
      (∀ (bytes : List UInt8) (t : TaskRecord), readText? read? bytes = some t →
        t.createdAt.natAbs ≤ 2 ^ 53 → t.Regular ∧ read? t.toJson = some t) ∧
      ∀ (bytes : List UInt8) (p : TaskPage), readText? TaskPage.read? bytes = some p →
        (∀ t ∈ p.tasks, t.createdAt.natAbs ≤ 2 ^ 53) →
          p.Regular ∧ TaskPage.read? p.toJson = some p := by
  refine ⟨fun t ht => ⟨read?_toJson ht, ?_⟩, fun p => TaskPage.read?_toJson, ?_, ?_, ?_⟩
  · intro idName hid errorName herror word hword
    exact read?_object_members ht hid herror hword
  · intro v t hread hcreated
    have hregular := regular_of_read? keepsNull_json hread hcreated
    exact ⟨hregular, read?_toJson hregular⟩
  · intro bytes t hread hcreated
    obtain ⟨d, -, hread⟩ := Option.bind_eq_some_iff.mp hread
    have hregular := regular_of_read? keepsNull_nested hread hcreated
    exact ⟨hregular, read?_toJson hregular⟩
  · intro bytes p hread hcreated
    obtain ⟨d, -, hread⟩ := Option.bind_eq_some_iff.mp hread
    have hregular := TaskPage.regular_of_read? keepsNull_nested hread hcreated
    exact ⟨hregular, TaskPage.read?_toJson hregular⟩

/-- A task in other spellings is read, written in its own ones and read again, by itself and on a
page. -/
theorem written_read_back_after_other_spellings :
    ∃ t : TaskRecord, read? spelledOtherwise = some t ∧ t.progress = 100 ∧
      t.toJson.member? "status" = some (.str "completed") ∧
      t.toJson.member? "error" = some (.str "slow") ∧ read? t.toJson = some t ∧
      TaskPage.read? (TaskPage.toJson ⟨[t], 1, 1, 20⟩) = some ⟨[t], 1, 1, 20⟩ := by
  obtain ⟨t, hread, hprogress, hstatus, herror, hcreated⟩ :
      ∃ t : TaskRecord, read? spelledOtherwise = some t ∧ t.progress = 100 ∧
        t.toJson.member? "status" = some (.str "completed") ∧
        t.toJson.member? "error" = some (.str "slow") ∧ t.createdAt = -5 :=
    ⟨_, rfl, rfl, rfl, rfl, rfl⟩
  obtain ⟨-, hpages, hvalues, -⟩ := written_read_back
  obtain ⟨hregular, hagain⟩ := hvalues _ t hread (by rw [hcreated]; decide)
  have hpage := hpages ⟨[t], 1, 1, 20⟩ <| by
    refine ⟨List.forall_mem_singleton.mpr hregular, ?_, ?_, ?_⟩ <;> exact Nat.le_of_ble_eq_true rfl
  exact ⟨t, hread, hprogress, hstatus, herror, hagain, hpage⟩

end TaskRecord

end TaskDesk
