import TaskDesk.Api.Response

/-!
# What a backend says about a failure

A response explains itself by the members of its body, `detail` before `message`. The search is for
the first of them that is not `null`, and only then it is looked whether that one says anything: the
empty text is a value like any other, so it is quoted, and what stands behind it is not looked at.
In every other case the backend's own words are surfaced, if there are any.

## Main definitions

- `ApiResponse.remarks` — the members of a body that may explain a failure, in order
- `ApiResponse.isMute` — the values that say nothing
- `ApiResponse.words` — how a value is surfaced

## Main results

- `ApiResponse.errorMessage_eq` — the first value that is not `null` decides, if there is one
- `ApiResponse.explained_unless_empty` — the backend's words, unless an empty text comes first
- `ApiResponse.empty_detail_hides_message` — an empty text that comes first
-/

namespace TaskDesk.ApiResponse

/-- The members that may explain a failure, in order. A body that is no object has none. -/
def remarks (r : ApiResponse) : List Json :=
  match Json.parse? r.body with
  | some (.obj members) => ["detail", "message"].filterMap fun key => members.lookup key
  | _ => []

/-- The value says nothing: it is `null` or the empty text. -/
def isMute : Json → Bool
  | .null => true
  | .str s => s = ""
  | _ => false

/-- The words of a value: a text is surfaced as it is, any other value as compact JSON. -/
def words : Json → String
  | .str s => s
  | v => v.toText

variable {v : Json}

theorem eq_str_empty_of_isMute (h : isMute v) (hnull : ¬ v.isNull) : v = .str "" := by
  cases v with
  | str s => rw [of_decide_eq_true h]
  | null => exact absurd rfl hnull
  | bool | num | arr | obj => nomatch h

theorem isMute_of_isNull (h : v.isNull) : isMute v := by
  cases v with
  | null => rfl
  | bool | num | str | arr | obj => nomatch h

theorem explanation?_of_isNull (h : v.isNull) : explanation? (some v) = none := by
  cases v with
  | null => rfl
  | bool | num | str | arr | obj => nomatch h

/-- A value that says something is surfaced by its words. -/
theorem explanation?_of_not_isMute (h : ¬ isMute v) : explanation? (some v) = some (words v) := by
  cases v with
  | null => exact absurd rfl h
  | str s =>
    have hs : s ≠ "" := fun hempty => h (decide_eq_true hempty)
    simp only [explanation?, if_neg hs, words]
  | bool | num | arr | obj => rfl

/-- Every value but `null` is surfaced somehow. -/
theorem exists_explanation? (h : ¬ v.isNull) : ∃ text, explanation? (some v) = some text := by
  cases v with
  | null => exact absurd rfl h
  | bool | num | str | arr | obj => exact ⟨_, rfl⟩

/-- Looking for a value that is surfaced ends at the first one that is not `null`. -/
theorem findSome?_explanation? (values : List Json) :
    (values.findSome? fun v => explanation? (some v)) =
      (values.find? fun v => !v.isNull).bind fun v => explanation? (some v) := by
  induction values with
  | nil => rfl
  | cons v values ih =>
    by_cases hnull : v.isNull
    · rw [List.findSome?_cons, explanation?_of_isNull hnull,
        List.find?_cons_of_neg (by simp [hnull])]
      exact ih
    · obtain ⟨text, htext⟩ := exists_explanation? hnull
      rw [List.findSome?_cons, htext, List.find?_cons_of_pos (by simp [hnull]), Option.bind_some,
        htext]

/-- A member that is absent is passed over like one that is `null`. -/
theorem findSome?_lookup (keys : List String) (members : List (String × Json)) :
    (keys.findSome? fun key => explanation? (members.lookup key)) =
      (keys.filterMap fun key => members.lookup key).findSome? fun v =>
        explanation? (some v) := by
  induction keys with
  | nil => rfl
  | cons key keys ih =>
    cases hkey : members.lookup key with
    | none =>
      simp only [List.findSome?_cons, List.filterMap_cons, hkey]
      exact ih
    | some v =>
      simp only [List.findSome?_cons, List.filterMap_cons, hkey, ih]

/-- The first value that is not `null` decides, whatever it says. -/
theorem errorMessage_eq (r : ApiResponse) :
    r.errorMessage =
      ((r.remarks.find? fun v => !v.isNull).bind fun v => explanation? (some v)).getD
        (statusLine r.status) := by
  rw [← findSome?_explanation?]
  unfold errorMessage remarks
  cases Json.parse? r.body with
  | none => rfl
  | some body =>
    cases body with
    | null | bool | num | str | arr => rfl
    | obj members =>
      simp only [← findSome?_lookup, List.findSome?_cons, List.findSome?_nil]
      cases hdetail : explanation? (members.lookup "detail") <;>
        cases hmessage : explanation? (members.lookup "message") <;>
          simp [Json.member?, hdetail, hmessage]

/-- The empty text is the first value of the body that is there and not `null`. -/
def StartsEmpty (r : ApiResponse) : Prop :=
  (r.remarks.find? fun v => !v.isNull) = some (.str "")

/-- Without an empty text in front, what is not `null` is what says something. -/
theorem find?_not_isMute {values : List Json}
    (h : (values.find? fun v => !v.isNull) ≠ some (.str "")) :
    (values.find? fun v => !isMute v) = values.find? fun v => !v.isNull := by
  induction values with
  | nil => rfl
  | cons v values ih =>
    by_cases hnull : v.isNull
    · rw [List.find?_cons_of_neg (by simp [hnull])] at h
      rw [List.find?_cons_of_neg (by simp [isMute_of_isNull hnull]),
        List.find?_cons_of_neg (by simp [hnull]), ih h]
    · rw [List.find?_cons_of_pos (by simp [hnull])] at h
      have hloud : ¬ isMute v := fun hmute => h (congrArg some (eq_str_empty_of_isMute hmute hnull))
      rw [List.find?_cons_of_pos (by simp [hloud]), List.find?_cons_of_pos (by simp [hnull])]

/-- The message is what the first of `detail` and `message` says that says anything, a text as it
is and any other value as compact JSON, and the status line if the body is no object or neither says
anything. The exception is a body whose first value that is not `null` is the empty text: then the
message is that text in quotes, whatever the body says else. -/
theorem explained_unless_empty (r : ApiResponse) :
    (¬ r.StartsEmpty →
      r.errorMessage =
        ((r.remarks.find? fun v => !isMute v).map words).getD (statusLine r.status)) ∧
      (r.StartsEmpty → r.errorMessage = "\"\"") := by
  rw [errorMessage_eq]
  refine ⟨fun h => ?_, fun h => ?_⟩
  · rw [← find?_not_isMute h]
    cases hfound : r.remarks.find? fun v => !isMute v with
    | none => rfl
    | some v =>
      have hloud : ¬ isMute v := by simpa using List.find?_some hfound
      rw [Option.bind_some, explanation?_of_not_isMute hloud]
      rfl
  · rw [h]
    rfl

/-- A `null` detail is passed over, and the message is surfaced as compact JSON, being no text. -/
theorem explained_unless_empty_by_message :
    let r : ApiResponse :=
      ⟨422, Utf8.encode "\x7b\"detail\": null, \"message\": [1, true]\x7d"⟩
    ¬ r.StartsEmpty ∧ r.errorMessage = "[1,true]" := by
  intro r
  have hfirst : (r.remarks.find? fun v => !v.isNull).map isMute = some false := by decide +kernel
  have hloud : ¬ r.StartsEmpty := by
    intro hempty
    rw [hempty] at hfirst
    nomatch hfirst
  refine ⟨hloud, ?_⟩
  rw [(explained_unless_empty r).1 hloud]
  decide +kernel

/-- An empty detail is quoted, and the message behind it is lost. -/
theorem empty_detail_hides_message :
    let r : ApiResponse :=
      ⟨503, Utf8.encode "\x7b\"detail\":\"\",\"message\":\"down\"\x7d"⟩
    ((r.remarks.find? fun v => !isMute v).map words).getD (statusLine r.status) = "down" ∧
      r.errorMessage = "\"\"" := by
  decide +kernel

end TaskDesk.ApiResponse
