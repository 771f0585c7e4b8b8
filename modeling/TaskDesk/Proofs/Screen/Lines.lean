import TaskDesk.Proofs.Text.Blank
import TaskDesk.Proofs.Text.Piece
import TaskDesk.Screen.List

/-!
# Lines of a printed list

A list is printed line by line, but a text that has a line break itself goes on in another line. A
heading shows such a text only if the filter is one, and the other lines around the table never do.
A row shows texts of its task: the identifier and the status are followed by other columns, so a
line break in them stays; what comes last on the line, the summary and the outcome, is trimmed, so a
line break in them stays if text follows it. Summaries are cut to a length, and line breaks are not
taken out.

## Main definitions

- `IsOneLine` — a text that does not go on in another line
- `Summary.source?` — the text of a request that its summary shows
- `Screen.Prints` — a text that is some lines, each with its end

## Main results

- `Screen.isOneLine_row_iff` — which rows stay on their line
- `Summary.isOneLine_ofPayload_iff` — which summaries have no line break
- `Screen.list_one_line_each_iff` — which lists are printed with one line for each row
-/

namespace TaskDesk

/-! ## One line -/

/-- A text that does not go on in another line. -/
def IsOneLine (text : String) : Prop :=
  '\n' ∉ text.toList

instance (text : String) : Decidable (IsOneLine text) :=
  inferInstanceAs (Decidable ('\n' ∉ text.toList))

namespace IsOneLine

@[simp] theorem append_iff {s t : String} : IsOneLine (s ++ t) ↔ IsOneLine s ∧ IsOneLine t := by
  simp [IsOneLine, not_or]

theorem replicate {c : Char} (h : c ≠ '\n') (n : Nat) :
    IsOneLine (String.ofList (List.replicate n c)) := by
  simp [IsOneLine, h.symm]

@[simp] theorem repr (n : Nat) : IsOneLine n.repr := by
  intro h
  rw [Nat.repr_eq_ofList_toDigits, String.toList_ofList] at h
  exact absurd (Nat.isDigit_of_mem_toDigits (by omega) (by omega) h) (by decide)

theorem spaces (n : Nat) : IsOneLine (Text.spaces n) :=
  replicate (by decide) n

@[simp] theorem padRight_iff {width : Nat} {s : String} :
    IsOneLine (Text.padRight width s) ↔ IsOneLine s := by
  rw [Text.padRight, append_iff]
  exact and_iff_left (spaces _)

@[simp] theorem padLeft_iff {width : Nat} {s : String} :
    IsOneLine (Text.padLeft width s) ↔ IsOneLine s := by
  rw [Text.padLeft, append_iff]
  exact and_iff_right (spaces _)

theorem kindLabel (kind : TaskKind) : IsOneLine kind.label := by
  cases kind <;> decide

theorem digits (width n : Nat) : IsOneLine (Timestamp.digits width n) :=
  append_iff.mpr ⟨replicate (by decide) _, repr n⟩

theorem timestamp (seconds : Int) : IsOneLine (Timestamp.text seconds) := by
  unfold Timestamp.text
  split
  · have hsign (year : Nat) : IsOneLine (if year > 9999 then "+" else "") := by
      split <;> decide
    simp only [Timestamp.calendarText, append_iff, digits, hsign, and_true]
    decide
  · decide

end IsOneLine

namespace Screen

/-! ## Rows -/

theorem toList_trimLine (line : String) : (trimLine line).toList = Text.trimEnd line.toList :=
  String.toList_ofList

theorem toList_trimLine_append (s t : String) :
    (trimLine (s ++ t)).toList =
      if Text.isBlank t then (trimLine s).toList else s.toList ++ (trimLine t).toList := by
  rw [toList_trimLine, toList_trimLine, toList_trimLine, String.toList_append]
  exact Text.trimEnd_append s.toList t.toList

/-- A line break stays if text follows it, in the same piece or in a later one. -/
theorem isOneLine_trimLine_append {s t : String} :
    IsOneLine (trimLine (s ++ t)) ↔
      IsOneLine (trimLine t) ∧ if Text.isBlank t then IsOneLine (trimLine s) else IsOneLine s := by
  have htrim := toList_trimLine_append s t
  by_cases hblank : Text.isBlank t
  · have hempty : trimLine t = "" := by
      rw [trimLine, Text.trimEnd_eq_nil_iff.mpr hblank]
    rw [if_pos hblank] at htrim ⊢
    rw [IsOneLine, htrim, hempty]
    exact (and_iff_right (by decide)).symm
  · rw [if_neg hblank] at htrim ⊢
    rw [IsOneLine, htrim, List.mem_append, not_or]
    exact and_comm

theorem isOneLine_trimLine {s : String} (h : IsOneLine s) : IsOneLine (trimLine s) := by
  rw [IsOneLine, toList_trimLine]
  exact mt Text.mem_of_mem_trimEnd h

/-- A piece without a line break makes no difference. -/
theorem isOneLine_trimLine_append_of_isOneLine {s : String} (h : IsOneLine s) (t : String) :
    IsOneLine (trimLine (s ++ t)) ↔ IsOneLine (trimLine t) := by
  rw [isOneLine_trimLine_append]
  refine and_iff_left ?_
  split
  · exact isOneLine_trimLine h
  · exact h

/-- The columns behind the progress are the summary and what came of the task; only there line
breaks can be at the end of the line, where they are trimmed. -/
theorem isOneLine_row_iff (r : TaskRow) :
    IsOneLine (row r) ↔ IsOneLine r.id ∧ IsOneLine r.status.label ∧
      IsOneLine (trimLine (r.summary ++ outcome r)) := by
  let front := checkbox r.selected ++ " " ++ Text.padRight 36 r.id ++ " " ++
    Text.padRight 5 r.kind.label ++ " " ++ Text.padRight 10 r.status.label ++ " "
  let middle := Text.padLeft 4 (Text.padLeft 3 (toString r.progress) ++ "%") ++ " " ++
    Text.padRight 19 (Timestamp.text r.createdAt) ++ " "
  let gap := Text.spaces (33 - r.summary.length) ++ " "
  have hrow : row r = trimLine (front ++ (middle ++ (r.summary ++ (gap ++ outcome r)))) := by
    simp only [row, columns, front, middle, gap, Text.padRight, String.append_assoc]
  have hmiddle : IsOneLine middle := by
    simp only [middle, IsOneLine.append_iff, IsOneLine.padLeft_iff, IsOneLine.padRight_iff]
    exact ⟨⟨⟨⟨IsOneLine.repr _, by decide⟩, by decide⟩, IsOneLine.timestamp _⟩, by decide⟩
  have hgap : IsOneLine gap := IsOneLine.append_iff.mpr ⟨IsOneLine.spaces _, by decide⟩
  have hfront : IsOneLine front ↔ IsOneLine r.id ∧ IsOneLine r.status.label := by
    have hcheckbox : IsOneLine (checkbox r.selected) := by
      cases r.selected <;> decide
    have hspace : IsOneLine " " := by decide
    simp only [front, IsOneLine.append_iff, IsOneLine.padRight_iff, IsOneLine.kindLabel, hcheckbox,
      hspace, true_and, and_true]
  -- The percent sign is text, so nothing before it is at the end of the line.
  have hshown : ¬ Text.isBlank (middle ++ (r.summary ++ (gap ++ outcome r))) := by
    have hpercent : '%' ∈ (middle ++ (r.summary ++ (gap ++ outcome r))).toList := by
      simp [middle, Text.padLeft]
    rw [Text.isBlank_eq_false_of_mem hpercent (by decide)]
    exact Bool.false_ne_true
  have hbehind : Text.isBlank (gap ++ outcome r) = Text.isBlank (outcome r) := by
    rw [Text.isBlank_append, Text.isBlank_append, Text.isBlank_spaces]
    rfl
  rw [hrow, isOneLine_trimLine_append, if_neg hshown,
    isOneLine_trimLine_append_of_isOneLine hmiddle, isOneLine_trimLine_append,
    isOneLine_trimLine_append_of_isOneLine hgap, hbehind, hfront, isOneLine_trimLine_append,
    and_comm, and_assoc]

end Screen

/-! ## Summaries -/

namespace Summary

/-- The text of a request that its summary shows: the prompt, else the content of the last
message. -/
def source? (payload : Json) : Option String :=
  Json.visibleText? (payload.member? "prompt") <|>
    (((payload.member? "messages").bind Json.items?).bind List.getLast?).bind fun message =>
      (message.member? "content").bind Json.str?

/-- A payload without such a text is summed up by a text that says so. -/
theorem ofPayload_cases (payload : Json) :
    (∃ text, source? payload = some text ∧ ofPayload payload = cut text) ∨
      source? payload = none ∧
        ofPayload payload ∈ ["-", "[multimodal content]", "see details"] := by
  cases hnull : payload.isNull with
  | true =>
    cases payload with
    | null => exact .inr ⟨rfl, by decide⟩
    | _ => nomatch hnull
  | false =>
    unfold ofPayload source?
    rw [hnull]
    cases Json.visibleText? (payload.member? "prompt") with
    | some prompt => exact .inl ⟨prompt, rfl, rfl⟩
    | none =>
      cases (payload.member? "messages").bind Json.items? with
      | none => exact .inr ⟨rfl, by decide⟩
      | some messages =>
        cases hlast : messages.getLast? with
        | none => exact .inr ⟨by simp [hlast], by simp [hlast]⟩
        | some message =>
          cases hcontent : message.member? "content" with
          | none => exact .inr ⟨by simp [hlast, hcontent], by simp [hlast, hcontent]⟩
          | some content =>
            cases content with
            | str text =>
              exact .inl ⟨text, by simp [hlast, hcontent, Json.str?], by simp [hlast, hcontent]⟩
            | _ => exact .inr ⟨by simp [hlast, hcontent, Json.str?], by simp [hlast, hcontent]⟩

theorem isOneLine_cut_iff {text : String} :
    IsOneLine (cut text) ↔ '\n' ∉ text.toList.take limit := by
  unfold cut
  by_cases hlong : text.toList.length > limit
  · simp only [if_pos hlong, IsOneLine.append_iff]
    rw [IsOneLine, String.toList_ofList]
    exact and_iff_left (by decide)
  · simp only [if_neg hlong]
    rw [IsOneLine, List.take_of_length_le (Nat.le_of_not_lt hlong)]

/-- Only a text of the request itself can bring a line break into its summary, among the characters
that are shown. -/
theorem isOneLine_ofPayload_iff {payload : Json} :
    IsOneLine (ofPayload payload) ↔
      ∀ text, source? payload = some text → '\n' ∉ text.toList.take limit := by
  rcases ofPayload_cases payload with ⟨text, hsource, hcut⟩ | ⟨hsource, hfixed⟩
  · rw [hcut, isOneLine_cut_iff, hsource]
    simp
  · have hline : ∀ summary ∈ ["-", "[multimodal content]", "see details"], IsOneLine summary := by
      decide
    rw [hsource]
    exact iff_of_true (hline _ hfixed) nofun

end Summary

namespace Screen

/-! ## Lists -/

/-- A text that is these lines, each with its end, and nothing else. -/
def Prints (text : String) (lines : List String) : Prop :=
  text.toList.splitOn '\n' = lines.map String.toList ++ [[]]

instance (text : String) (lines : List String) : Decidable (Prints text lines) :=
  inferInstanceAs (Decidable (_ = _))

theorem prints_ofLines_iff {lines : List String} :
    Prints (ofLines lines) lines ↔ ∀ line ∈ lines, IsOneLine line := by
  constructor
  · intro h line hline
    have hpart : line.toList ∈ (ofLines lines).toList.splitOn '\n' := by
      rw [h]
      exact List.mem_append_left _ (List.mem_map_of_mem hline)
    exact Text.not_mem_of_mem_splitOn hpart
  · intro h
    induction lines with
    | nil => rfl
    | cons line lines ih =>
      obtain ⟨hline, hlines⟩ := List.forall_mem_cons.mp h
      have htext : (ofLines (line :: lines)).toList =
          line.toList ++ '\n' :: (ofLines lines).toList := by
        simp [ofLines, String.join_cons]
      rw [Prints, htext, List.splitOn_append_cons_self_of_not_mem hline, ih hlines]
      rfl

theorem isOneLine_intercalate_iff {names : List String} :
    IsOneLine (" ".intercalate names) ↔ ∀ name ∈ names, IsOneLine name := by
  induction names with
  | nil => exact iff_of_true (by decide) nofun
  | cons name names ih =>
    cases names with
    | nil => simp
    | cons second names =>
      rw [String.intercalate_cons_cons, List.forall_mem_cons, ← ih, IsOneLine.append_iff,
        IsOneLine.append_iff, and_assoc]
      exact and_congr_right' (and_iff_right (by decide))

/-- Of what a heading says, only the status of the filter is a text of the operator. -/
theorem isOneLine_heading_iff {v : ListView} :
    IsOneLine (heading v) ↔ ∀ status, v.statusFilter = some status → IsOneLine status.label := by
  have hpolling : IsOneLine (if v.polling then ", refreshing" else "") := by
    split <;> decide
  have hnumber (n : Nat) : IsOneLine (toString n) := IsOneLine.repr n
  have hfilters : IsOneLine (heading v) ↔ ∀ name ∈ filters v, IsOneLine name := by
    unfold heading
    cases filters v with
    | nil => simp +decide only [IsOneLine.append_iff, hnumber, hpolling]
    | cons name names =>
      simp +decide only [IsOneLine.append_iff, hnumber, hpolling, isOneLine_intercalate_iff,
        true_and, and_true]
  rw [hfilters, filters, List.forall_mem_append]
  have hkind : ∀ name ∈ v.kindFilter.toList.map fun k => "type=" ++ k.label, IsOneLine name := by
    intro name hname
    obtain ⟨kind, -, rfl⟩ := List.mem_map.mp hname
    exact IsOneLine.append_iff.mpr ⟨by decide, IsOneLine.kindLabel kind⟩
  rw [and_iff_left hkind]
  simp +decide [IsOneLine.append_iff]

theorem isOneLine_columnLine (v : ListView) : IsOneLine (columnLine v) := by
  have hmark : IsOneLine (groupMark v.mark) := by
    cases v.mark <;> decide
  simp only [columnLine, columns, IsOneLine.append_iff, IsOneLine.padRight_iff,
    IsOneLine.padLeft_iff, hmark, true_and]
  decide

/-- A list is printed as one line for the heading, one more if the credential was rejected, and then
one that says that there are no tasks, or one for the columns, one for each row in order and one for
the count of selected tasks, unless a text of the filter or of a task goes on in another line. Of a
task the identifier and the status do that with any line break, the summary and the outcome with one
that text follows; and the summary has a line break if its text has one among the characters that
are shown. -/
theorem list_one_line_each_iff (v : ListView) (tasks : List TaskRecord) (selection : Selection)
    (cursor : PageCursor) :
    let page := ShownPage.of tasks selection cursor
    let shown := { v with rows := page.rows, mark := page.mark, cursor := page.cursor }
    let lines :=
      heading shown ::
        (if v.authInvalid then
          ["Credential rejected; set a new one with \x60task-console token\x60."]
        else []) ++
        if tasks = [] then ["No tasks."]
        else
          columnLine shown :: tasks.map (fun t => row (TaskRow.of selection t)) ++
            if 0 < v.selectedCount then [toString v.selectedCount ++ " selected"] else []
    (Prints (list shown) lines ↔
      (∀ status, v.statusFilter = some status → IsOneLine status.label) ∧
        ∀ t ∈ tasks, IsOneLine t.id ∧ IsOneLine t.status.label ∧
          IsOneLine (trimLine (Summary.ofPayload t.payload ++ outcome (TaskRow.of selection t)))) ∧
      ∀ payload, IsOneLine (Summary.ofPayload payload) ↔
        ∀ text, Summary.source? payload = some text → '\n' ∉ text.toList.take 30 := by
  intro page shown lines
  refine ⟨?_, fun payload => Summary.isOneLine_ofPayload_iff⟩
  have hlines : listLines shown = lines := by
    have hrows : shown.rows = tasks.map (TaskRow.of selection) := rfl
    simp only [listLines, hrows, List.isEmpty_iff, List.map_eq_nil_iff, List.map_map]
    rfl
  have hwarning : ∀ line ∈ if v.authInvalid then
      ["Credential rejected; set a new one with \x60task-console token\x60."] else [],
      IsOneLine line := by
    split <;> decide
  have hcount : ∀ line ∈ if 0 < v.selectedCount then [toString v.selectedCount ++ " selected"]
      else [], IsOneLine line := by
    split
    · exact List.forall_mem_singleton.mpr
        (IsOneLine.append_iff.mpr ⟨IsOneLine.repr _, by decide⟩)
    · exact nofun
  rw [list, hlines, prints_ofLines_iff, List.forall_mem_append, List.forall_mem_cons,
    and_iff_left hwarning, isOneLine_heading_iff]
  refine and_congr_right fun _ => ?_
  by_cases hnone : tasks = []
  · rw [if_pos hnone, hnone]
    exact iff_of_true (by decide) nofun
  · rw [if_neg hnone, List.forall_mem_append, and_iff_left hcount, List.forall_mem_cons,
      and_iff_right (isOneLine_columnLine _), List.forall_mem_map]
    exact forall₂_congr fun t _ => isOneLine_row_iff (TaskRow.of selection t)

/-- A failed task whose error ends with a line break. -/
def failedTask (prompt : String) : TaskRecord where
  id := "t"
  kind := .video
  status := .failed
  progress := 0
  payload := .obj [("prompt", .str prompt)]
  result := none
  error := some "down\n"
  createdAt := 0

/-- Line breaks behind the characters that are shown, or at the end of the row, are not printed. -/
theorem list_one_line_each_with_late_breaks :
    let t := failedTask "a prompt that fills its column\nand goes on"
    let page := ShownPage.of [t] {} default
    let shown : ListView :=
      { rows := page.rows, mark := page.mark, cursor := page.cursor, selectedCount := 1 }
    IsOneLine (Summary.ofPayload t.payload) ∧
      Prints (list shown)
        [heading shown, columnLine shown, row (TaskRow.of {} t), "1 selected"] := by
  intro t page shown
  obtain ⟨hlist, hsummary⟩ := list_one_line_each_iff { selectedCount := 1 } [t] {} default
  refine ⟨(hsummary _).mpr ?_, hlist.mpr ⟨nofun, ?_⟩⟩
  · intro text htext
    obtain rfl := Option.some.inj htext
    decide
  · intro t' ht'
    obtain rfl := List.mem_singleton.mp ht'
    exact ⟨by decide, by decide, by decide⟩

/-- The line break of a prompt is in the summary, and the row does not stay on its line. -/
theorem prompt_breaks_row :
    let t := failedTask "a\nb"
    let page := ShownPage.of [t] {} default
    let shown : ListView := { rows := page.rows, mark := page.mark, cursor := page.cursor }
    let lines := [heading shown, columnLine shown, row (TaskRow.of {} t)]
    ¬ IsOneLine (Summary.ofPayload t.payload) ∧ list shown = ofLines lines ∧
      ¬ Prints (list shown) lines := by
  intro t page shown lines
  have hlines : list shown = ofLines lines := rfl
  refine ⟨by decide, hlines, fun hprints => ?_⟩
  rw [hlines, prints_ofLines_iff] at hprints
  have hrow := hprints (row (TaskRow.of {} t)) (by simp [lines])
  exact absurd ((isOneLine_row_iff _).mp hrow).2.2 (by decide)

end Screen

end TaskDesk
