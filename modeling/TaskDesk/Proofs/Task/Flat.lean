import Mathlib.Data.List.Forall2
import TaskDesk.Api.Call
import TaskDesk.Proofs.Json.Record
import TaskDesk.View.Page

/-!
# Flat records

The records of the generation endpoints are flat, and they are put into the form of a task before
they are read. That happens in three steps, each of which fills in one member and leaves the others
alone, so what the task and its row show can be said by the record as it was sent.

## Main definitions

- `TaskRecord.withKind`, `TaskRecord.withPayload`, `TaskRecord.withResult` — the three steps
- `TaskRecord.ReadOf` — what a task has of the members that it was read from
- `TaskRecord.Shows` — what a task and its row show of a flat record

## Main results

- `TaskRecord.unflatten_eq` — the three steps one after the other
- `TaskRecord.readOf_of_read?` — what was read
- `TaskRecord.shows_of_ofFlat` — what is shown
- `TaskRecord.mapM_eq_ok_iff`, `TaskRecord.mapM_eq_error_iff` — a list that is read as a whole
-/

namespace TaskDesk

open Json

namespace TaskRecord

variable {kind : TaskKind} {members : List (String × Json)} {key : String}

/-! ## The three steps -/

/-- The kind of the endpoint, unless the record has one. -/
def withKind (kind : TaskKind) (members : List (String × Json)) : List (String × Json) :=
  match members.lookup "type" with
  | some _ => members
  | none => Json.insert "type" (.str kind.label) members

/-- The prompt as the payload, unless the record has one. -/
def withPayload (members : List (String × Json)) : List (String × Json) :=
  match members.lookup "payload", present? "prompt" members with
  | none, some prompt => Json.insert "payload" (object [("prompt", prompt)]) members
  | _, _ => members

/-- The links of a record that are not `null`. -/
def links (members : List (String × Json)) : List (String × Json) :=
  ["video_url", "thumbnail_url"].filterMap fun key =>
    (present? key members).map fun v => (key, v)

/-- The links as the result, unless the record has one. -/
def withResult (members : List (String × Json)) : List (String × Json) :=
  match present? "result" members with
  | some _ => members
  | none =>
    if (links members).isEmpty then members
    else Json.insert "result" (object (links members)) members

theorem unflatten_eq (kind : TaskKind) (members : List (String × Json)) :
    unflatten kind members = withResult (withPayload (withKind kind members)) :=
  rfl

theorem present?_of_lookup {v : Json} (h : members.lookup key = some v) (hne : v ≠ .null) :
    present? key members = some v := by
  rw [present?, h]
  cases v with
  | null => exact absurd rfl hne
  | bool | num | str | arr | obj => rfl

theorem present?_of_str {text : String} (h : members.lookup key = some (.str text)) :
    present? key members = some (.str text) := by
  rw [present?, h]

theorem lookup_withKind_of_ne (h : key ≠ "type") :
    (withKind kind members).lookup key = members.lookup key := by
  unfold withKind
  split
  · rfl
  · exact lookup_insert_of_ne h _ _

theorem lookup_withKind_self (h : members.lookup "type" = none) :
    (withKind kind members).lookup "type" = some (.str kind.label) := by
  simp only [withKind, h, lookup_insert_self]

theorem lookup_withPayload_of_ne (h : key ≠ "payload") :
    (withPayload members).lookup key = members.lookup key := by
  unfold withPayload
  split
  · exact lookup_insert_of_ne h _ _
  · rfl

theorem lookup_withPayload_self (members : List (String × Json)) :
    (withPayload members).lookup "payload" =
      (members.lookup "payload").or
        ((present? "prompt" members).map fun prompt => object [("prompt", prompt)]) := by
  unfold withPayload
  cases hpayload : members.lookup "payload" with
  | some payload => exact hpayload
  | none =>
    cases hprompt : present? "prompt" members with
    | none => exact hpayload
    | some prompt => exact lookup_insert_self _ _ _

theorem lookup_withResult_of_ne (h : key ≠ "result") :
    (withResult members).lookup key = members.lookup key := by
  unfold withResult
  split
  · rfl
  · split
    · rfl
    · exact lookup_insert_of_ne h _ _

/-- A result of the record itself stays. -/
theorem present?_withResult_of_some {v : Json} (h : present? "result" members = some v) :
    present? "result" (withResult members) = some v := by
  simp only [withResult, h]

/-- Without a result there are the links, if there are any. -/
theorem present?_withResult_of_none (h : present? "result" members = none)
    (hlinks : links members ≠ []) :
    present? "result" (withResult members) = some (object (links members)) := by
  have hsome : ¬ (links members).isEmpty := mt List.isEmpty_iff.mp hlinks
  simp only [withResult, h, if_neg hsome]
  rw [present?, lookup_insert_self]
  rfl

/-- What the three steps do not fill in stays. -/
theorem lookup_unflatten (h : key ∉ ["type", "payload", "result"]) :
    (unflatten kind members).lookup key = members.lookup key := by
  simp only [List.mem_cons, List.not_mem_nil, or_false, not_or] at h
  rw [unflatten_eq, lookup_withResult_of_ne h.2.2, lookup_withPayload_of_ne h.2.1,
    lookup_withKind_of_ne h.1]

theorem lookup_type_unflatten (h : members.lookup "type" = none) :
    (unflatten kind members).lookup "type" = some (.str kind.label) := by
  rw [unflatten_eq, lookup_withResult_of_ne (by decide), lookup_withPayload_of_ne (by decide),
    lookup_withKind_self h]

theorem lookup_payload_unflatten (kind : TaskKind) (members : List (String × Json)) :
    (unflatten kind members).lookup "payload" =
      (members.lookup "payload").or
        ((present? "prompt" members).map fun prompt => object [("prompt", prompt)]) := by
  have hpayload : (withKind kind members).lookup "payload" = members.lookup "payload" :=
    lookup_withKind_of_ne (by decide)
  have hprompt : present? "prompt" (withKind kind members) = present? "prompt" members := by
    rw [present?, present?, lookup_withKind_of_ne (by decide)]
  rw [unflatten_eq, lookup_withResult_of_ne (by decide), lookup_withPayload_self, hpayload, hprompt]

theorem present?_result_filled (kind : TaskKind) (members : List (String × Json)) :
    present? "result" (withPayload (withKind kind members)) = present? "result" members := by
  rw [present?, present?, lookup_withPayload_of_ne (by decide), lookup_withKind_of_ne (by decide)]

theorem links_filled (kind : TaskKind) (members : List (String × Json)) :
    links (withPayload (withKind kind members)) = links members := by
  have hkept {key : String} (hkey : key ∈ ["video_url", "thumbnail_url"]) :
      present? key (withPayload (withKind kind members)) = present? key members := by
    have hne : key ≠ "payload" ∧ key ≠ "type" := by
      simp only [List.mem_cons, List.not_mem_nil, or_false] at hkey
      rcases hkey with rfl | rfl <;> decide
    rw [present?, present?, lookup_withPayload_of_ne hne.1, lookup_withKind_of_ne hne.2]
  exact List.filterMap_congr fun key hkey => by rw [hkept hkey]

/-! ## What is read -/

/-- What a task has of the members that it was read from. -/
structure ReadOf (members : List (String × Json)) (t : TaskRecord) : Prop where
  kind_eq : ∀ kind : TaskKind, members.lookup "type" = some (.str kind.label) → t.kind = kind
  status_eq : ∃ word, members.lookup "status" = some (.str word) ∧ t.status = .parse word
  payload_eq : t.payload = (members.lookup "payload").getD .null
  result_eq : t.result = present? "result" members

theorem eq_str_of_string {v : Json} {text : String} (h : Read.string v = some text) :
    v = .str text := by
  cases v with
  | str s => rw [Option.some.inj h]
  | null | bool | num | arr | obj => nomatch h

theorem result_eq_present? {v : Json} {result : Option Json} (hlookup : members.lookup key = some v)
    (h : Read.nullable Read.any v = some result) : result = present? key members := by
  rw [present?, hlookup]
  cases v with
  | null | bool | num | str | arr | obj => exact (Option.some.inj h).symm

theorem readOf_of_read? {t : TaskRecord} (h : read? (Json.obj members) = some t) :
    ReadOf members t := by
  have hfields : Fields.of? 8 (Json.obj members) = some (.named members) := by
    simp only [Fields.of?, Source.look]
    rw [Fields.keyed?_some]
    rfl
  simp only [read?, hfields, Option.bind_eq_bind, Option.bind_some, Option.bind_eq_some_iff] at h
  obtain ⟨id, -, kind, hkind, word, hword, progress, -, payload, hpayload, result, hresult,
    error, -, createdAt, -, ht⟩ := h
  have hstatus : t.status = .parse word := by rw [← Option.some.inj ht]
  refine ⟨fun k hk => ?_, ⟨word, ?_, hstatus⟩, ?_, ?_⟩ <;> obtain rfl := Option.some.inj ht
  · obtain ⟨v, hv, hread⟩ := Fields.exists_lookup_of_required? hkind
    obtain rfl := Option.some.inj (hk.symm.trans hv)
    exact (Option.some.inj ((TaskKind.ofLabel?_label k).symm.trans hread)).symm
  · obtain ⟨v, hv, hread⟩ := Fields.exists_lookup_of_required? hword
    rw [hv, eq_str_of_string hread]
  · rcases Fields.lookup_of_withDefault? hpayload with ⟨v, hv, hread⟩ | ⟨hnone, rfl⟩
    · rw [hv]
      exact (Option.some.inj hread).symm
    · rw [hnone]
      rfl
  · rcases Fields.lookup_of_withDefault? hresult with ⟨v, hv, hread⟩ | ⟨hnone, rfl⟩
    · exact result_eq_present? hv hread
    · rw [present?, hnone]

/-! ## What is shown -/

theorem visibleText?_present? (key : String) (members : List (String × Json)) :
    visibleText? (present? key members) = visibleText? (members.lookup key) := by
  unfold present?
  rcases members.lookup key with _ | (_ | _ | _ | _ | _ | _) <;> rfl

theorem visibleText?_of_visible {text : String} (h : ¬ Text.isBlank text) :
    visibleText? (some (.str text)) = some text :=
  if_neg h

/-- A result with a link of its own and no content. -/
theorem extract_of_bare {url : String} (hurl : visibleText? (members.lookup "video_url") = some url)
    (hchoices : members.lookup "choices" = none) (hcontent : members.lookup "content" = none) :
    Media.extract .video (some (.obj members)) =
      { link := some url, thumbnail := visibleText? (members.lookup "thumbnail_url") } := by
  have hchat : ResultShape.chatContent? members = none := by
    simp only [ResultShape.chatContent?, hchoices]
  simp only [Media.extract, ResultShape.classify, ResultShape.classifyVideo, hurl, hchat, hcontent]
  cases visibleText? (members.lookup "thumbnail_url") <;> rfl

theorem links_ne_nil {v : Json} (h : present? "video_url" members = some v) :
    links members ≠ [] := by
  simp [links, h]

/-- The links of a record are what the record says itself. -/
theorem member?_links (key : String) (members : List (String × Json)) :
    (object (links members)).member? key =
      if key ∈ ["thumbnail_url", "video_url"] then present? key members else none := by
  rw [member?_object, links, ← List.filterMap_reverse]
  exact lookup_filterMap key _ fun k => present? k members

/-- The links of a flat record as a result of their own. -/
theorem extract_links {url : String} (hurl : members.lookup "video_url" = some (.str url))
    (hvisible : ¬ Text.isBlank url) :
    Media.extract .video (some (object (links members))) =
      { link := some url, thumbnail := visibleText? (members.lookup "thumbnail_url") } := by
  obtain ⟨sorted, hsorted⟩ : ∃ sorted, object (links members) = .obj sorted := ⟨_, rfl⟩
  have hlookup (key : String) : sorted.lookup key =
      if key ∈ ["thumbnail_url", "video_url"] then present? key members else none := by
    rw [← member?_links, hsorted, member?]
  have hpresent : present? "video_url" members = some (.str url) := present?_of_str hurl
  have hvideo : sorted.lookup "video_url" = some (.str url) := by
    rw [hlookup, if_pos (by decide), hpresent]
  have hthumbnail : sorted.lookup "thumbnail_url" = present? "thumbnail_url" members := by
    rw [hlookup, if_pos (by decide)]
  rw [hsorted, ← visibleText?_present?, ← hthumbnail]
  refine extract_of_bare ?_ ?_ ?_
  · rw [hvideo, visibleText?_of_visible hvisible]
  · rw [hlookup, if_neg (by decide)]
  · rw [hlookup, if_neg (by decide)]

/-- A prompt of its own as the payload. -/
theorem ofPayload_prompt {prompt : String} (h : ¬ Text.isBlank prompt) :
    Summary.ofPayload (object [("prompt", .str prompt)]) = Summary.cut prompt := by
  have hprompt : (object [("prompt", .str prompt)]).member? "prompt" = some (.str prompt) := by
    rw [member?_object]
    rfl
  rw [Summary.ofPayload, hprompt, visibleText?_of_visible h]
  rfl

/-- What a task and its row show of a flat record of a video without a kind. -/
structure Shows (members : List (String × Json)) (t : TaskRecord) (row : TaskRow) : Prop where
  kind_eq : t.kind = .video
  /-- A result of the record itself is kept. -/
  result_eq : ∀ v, members.lookup "result" = some v → v ≠ .null → t.result = some v
  /-- A payload of the record itself is kept. -/
  payload_eq : ∀ v, members.lookup "payload" = some v → t.payload = v
  /-- Without a result, a video that came to a good end is shown by the links of the record. -/
  media_eq : ∀ word url,
    members.lookup "result" = none ∨ members.lookup "result" = some .null →
    members.lookup "status" = some (.str word) →
    Text.lowerAscii (Text.trim word) ∈ ["completed", "success"] →
    members.lookup "video_url" = some (.str url) → ¬ Text.isBlank url →
      row.media =
        some { link := some url, thumbnail := visibleText? (members.lookup "thumbnail_url") }
  /-- Without a payload, the summary is the prompt, cut to 30 code points. -/
  summary_eq : ∀ prompt,
    members.lookup "payload" = none → members.lookup "prompt" = some (.str prompt) →
    ¬ Text.isBlank prompt →
      row.summary =
        if prompt.toList.length ≤ 30 then prompt
        else String.ofList (prompt.toList.take 30) ++ "..."

theorem isSuccess_parse {word : String}
    (h : Text.lowerAscii (Text.trim word) ∈ ["completed", "success"]) :
    (TaskStatus.parse word).isSuccess := by
  have hknown : TaskStatus.known? word = some .completed := by
    simp only [List.mem_cons, List.not_mem_nil, or_false] at h
    rcases h with h | h <;> simp [TaskStatus.known?, h]
  rw [TaskStatus.parse, hknown]
  rfl

theorem cut_eq (text : String) :
    Summary.cut text =
      if text.toList.length ≤ 30 then text else String.ofList (text.toList.take 30) ++ "..." := by
  rw [Summary.cut, Summary.limit]
  split_ifs <;> first | rfl | omega

theorem ofFlat_obj_eq_ok_iff {t : TaskRecord} :
    ofFlat kind (.obj members) = .ok t ↔ read? (Json.obj (unflatten kind members)) = some t := by
  cases hread : read? (Json.obj (unflatten kind members)) with
  | none => simp [ofFlat, hread]
  | some read => simp [ofFlat, hread]

/-- The record of a video is shown by what it says at top level. -/
theorem shows_of_ofFlat {t : TaskRecord} (hkind : members.lookup "type" = none)
    (h : ofFlat .video (.obj members) = .ok t) (selection : Selection) :
    Shows members t (TaskRow.of selection t) := by
  have hread := readOf_of_read? (ofFlat_obj_eq_ok_iff.mp h)
  have hpayload : t.payload = _ := hread.payload_eq
  rw [lookup_payload_unflatten] at hpayload
  have hresult : t.result = _ := hread.result_eq
  rw [unflatten_eq] at hresult
  have hvideo : t.kind = .video := hread.kind_eq _ (lookup_type_unflatten hkind)
  refine ⟨hvideo, fun v hv hne => ?_, fun v hv => ?_, ?_, ?_⟩
  · have hpresent : present? "result" members = some v := present?_of_lookup hv hne
    rw [hresult, present?_withResult_of_some (by rw [present?_result_filled, hpresent])]
  · rw [hpayload, hv]
    rfl
  · intro word url hnone hword hsuccess hurl hvisible
    have habsent : present? "result" members = none := by
      rcases hnone with hnone | hnone <;> rw [present?, hnone]
    have hlinks : links members ≠ [] := links_ne_nil (present?_of_str hurl)
    rw [present?_withResult_of_none (by rw [present?_result_filled, habsent])
      (by rwa [links_filled]), links_filled] at hresult
    obtain ⟨word', hword', hstatus⟩ := hread.status_eq
    rw [lookup_unflatten (by decide), hword] at hword'
    obtain rfl : word = word' := by simpa using hword'
    have hdone : t.status.isSuccess := hstatus ▸ isSuccess_parse hsuccess
    simp only [TaskRow.of, hdone, if_true, hvideo, hresult, extract_links hurl hvisible]
  · intro prompt hnone hprompt hvisible
    rw [hnone, present?_of_str hprompt] at hpayload
    have hsummary : (TaskRow.of selection t).summary = Summary.ofPayload t.payload := rfl
    rw [hsummary, hpayload, ← cut_eq]
    exact ofPayload_prompt hvisible

/-! ## Lists of records -/

theorem ofFlat_eq_notAnObject {record : Json} (h : ∀ members, record ≠ .obj members) :
    ofFlat kind record = .error .notAnObject := by
  cases record with
  | obj members => exact absurd rfl (h members)
  | null | bool | num | str | arr => rfl

variable {ε α β : Type} {read : α → Except ε β} {xs : List α}

/-- A list is read if all of its elements are, in their order. -/
theorem mapM_eq_ok_iff {ys : List β} :
    xs.mapM read = .ok ys ↔ List.Forall₂ (fun x y => read x = .ok y) xs ys := by
  induction xs generalizing ys with
  | nil => cases ys <;> simp [pure, Except.pure]
  | cons x xs ih =>
    rw [List.mapM_cons, List.forall₂_cons_left_iff]
    cases hx : read x with
    | error e => simp [bind, Except.bind]
    | ok y =>
      cases hxs : xs.mapM read with
      | error e => simp [bind, Except.bind, ← ih, hxs]
      | ok rest => simp [bind, Except.bind, pure, Except.pure, ← ih, hxs, eq_comm]

/-- A list is not read because of the first of its elements that is not. -/
theorem mapM_eq_error_iff {e : ε} :
    xs.mapM read = .error e ↔
      ∃ before x after, xs = before ++ x :: after ∧
        (∀ earlier ∈ before, ∃ y, read earlier = .ok y) ∧ read x = .error e := by
  constructor
  · intro h
    induction xs with
    | nil => cases h
    | cons x xs ih =>
      rw [List.mapM_cons] at h
      cases hx : read x with
      | error e' =>
        rw [hx] at h
        obtain rfl := Except.error.inj h
        exact ⟨[], x, xs, rfl, nofun, hx⟩
      | ok y =>
        cases hxs : xs.mapM read with
        | error e' =>
          rw [hx, hxs] at h
          obtain rfl := Except.error.inj h
          obtain ⟨before, z, after, rfl, hbefore, hz⟩ := ih hxs
          exact ⟨x :: before, z, after, rfl, List.forall_mem_cons.mpr ⟨⟨y, hx⟩, hbefore⟩, hz⟩
        | ok ys =>
          rw [hx, hxs] at h
          cases h
  · rintro ⟨before, x, after, rfl, hbefore, hx⟩
    induction before with
    | nil =>
      rw [List.nil_append, List.mapM_cons, hx]
      rfl
    | cons earlier before ih =>
      obtain ⟨⟨y, hy⟩, hbefore⟩ := List.forall_mem_cons.mp hbefore
      rw [List.cons_append, List.mapM_cons, hy, ih hbefore]
      rfl

end TaskRecord

end TaskDesk
