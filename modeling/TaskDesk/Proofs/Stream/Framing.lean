import TaskDesk.Proofs.Stream.Pieces
import TaskDesk.Proofs.Text.Utf8

/-!
# Writing event streams

An event is written as a line with its name, one line for each line of its data, and an empty line.
Comments and other fields may stand anywhere between these lines, and more empty lines between the
events. The decoder reads back exactly the events that were written, however the lines end and
however the bytes are cut.

## Main definitions

- `SseFrame` — an event to be written
- `SseLine` — a line and how it ends
- `SseLine.IsNoise` — the lines that mean nothing
- `SseFrame.Written` — the bytes that write some events

## Main results

- `SseFrame.read_back` — the events that were written are read back
-/

namespace TaskDesk

/-! ## The format -/

/-- An event to be written. Without a name it is a plain message. -/
structure SseFrame where
  name? : Option String
  data : String
  /-- A name is one line. -/
  name_oneLine : ∀ name ∈ name?, '\n' ∉ name.toList

/-- How a line ends. -/
inductive LineEnd where
  | lf
  | crlf
deriving DecidableEq

/-- The bytes of a line end. -/
def LineEnd.bytes : LineEnd → List UInt8
  | lf => [10]
  | crlf => [13, 10]

/-- A line and how it ends. A carriage return before the line feed always belongs to the end. -/
structure SseLine where
  content : List UInt8
  ending : LineEnd
  fits : ending = .lf → content.getLast? ≠ some 13

namespace SseLine

/-- The bytes of a line with its end. -/
def bytes (l : SseLine) : List UInt8 :=
  l.content ++ l.ending.bytes

/-- The name of a field that is neither `data` nor `event`. -/
structure IsOtherName (name : List UInt8) : Prop where
  ne_nil : name ≠ []
  ne_data : name ≠ Utf8.encode "data"
  ne_event : name ≠ Utf8.encode "event"
  no_colon : 58 ∉ name
  no_lineFeed : 10 ∉ name

/-- What a line holds that means nothing: a comment, or another field without or with a value. The
bytes need not be well-formed text. -/
inductive IsNoise : List UInt8 → Prop
  | comment {text : List UInt8} (htext : 10 ∉ text) : IsNoise (58 :: text)
  | bare {name : List UInt8} (hname : IsOtherName name) : IsNoise name
  | valued {name value : List UInt8} (hname : IsOtherName name) (hvalue : 10 ∉ value) :
      IsNoise (name ++ 58 :: value)

/-- Noise is put anywhere among lines. -/
inductive Noisy : List (List UInt8) → List (List UInt8) → Prop
  | nil : Noisy [] []
  | keep {lines noisy : List (List UInt8)} (line : List UInt8) (h : Noisy lines noisy) :
      Noisy (line :: lines) (line :: noisy)
  | noise {lines noisy : List (List UInt8)} {line : List UInt8} (hline : IsNoise line)
      (h : Noisy lines noisy) : Noisy lines (line :: noisy)

end SseLine

namespace SseFrame

/-- The event that a frame writes. -/
def event (f : SseFrame) : SseEvent :=
  ⟨f.name?.getD "message", f.data⟩

/-- The lines of the data of an event. -/
def parts (f : SseFrame) : List (List Char) :=
  f.data.toList.splitOn '\n'

/-- The lines of an event: its name, if it has one, the lines of its data, and an empty line. -/
def lines (f : SseFrame) : List (List UInt8) :=
  (f.name?.map fun name => Utf8.encode ("event: " ++ name)).toList ++
    f.parts.map (fun part => Utf8.encode ("data: " ++ String.ofList part)) ++ [[]]

/-- The lines of some events, with empty lines between them. -/
inductive Spaced : List SseFrame → List (List UInt8) → Prop
  | nil : Spaced [] []
  | gap {frames : List SseFrame} {lines : List (List UInt8)} (h : Spaced frames lines) :
      Spaced frames ([] :: lines)
  | frame {frames : List SseFrame} {lines : List (List UInt8)} (f : SseFrame)
      (h : Spaced frames lines) : Spaced (f :: frames) (f.lines ++ lines)

/-- The bytes write the events. -/
def Written (frames : List SseFrame) (body : List UInt8) : Prop :=
  ∃ lines, Spaced frames lines ∧ ∃ written : List SseLine,
    SseLine.Noisy lines (written.map SseLine.content) ∧ body = written.flatMap SseLine.bytes

end SseFrame

/-! ## Lines -/

namespace SseLine

/-- What is read of the content of a line. -/
def chars (content : List UInt8) : List Char :=
  (Utf8.decodeLossy content).toList

@[simp] theorem chars_encode (s : String) : chars (Utf8.encode s) = s.toList := by
  rw [chars, Utf8.decodeLossy_encode]

/-- The line without its line feed. -/
def withReturn (l : SseLine) : List UInt8 :=
  match l.ending with
  | .lf => l.content
  | .crlf => l.content ++ [13]

theorem bytes_eq (l : SseLine) : l.bytes = l.withReturn ++ [10] := by
  unfold bytes withReturn LineEnd.bytes
  cases l.ending with
  | lf => rfl
  | crlf => simp

theorem lineText_withReturn (l : SseLine) :
    SseDecoder.lineText l.withReturn = chars l.content := by
  unfold withReturn SseDecoder.lineText chars
  cases h : l.ending with
  | lf => simp [l.fits h]
  | crlf => simp

theorem not_mem_withReturn {l : SseLine} (h : 10 ∉ l.content) : 10 ∉ l.withReturn := by
  unfold withReturn
  cases l.ending with
  | lf => exact h
  | crlf => simp [h]

/-- The decoder takes the lines that were written. -/
theorem splitOn_flatMap_bytes {written : List SseLine} (h : ∀ l ∈ written, 10 ∉ l.content) :
    (written.flatMap bytes).splitOn 10 = written.map withReturn ++ [[]] := by
  induction written with
  | nil => rfl
  | cons l written ih =>
    have hl := not_mem_withReturn (h l List.mem_cons_self)
    rw [List.flatMap_cons, bytes_eq, List.append_assoc, List.singleton_append,
      List.splitOn_append_cons_self_of_not_mem hl,
      ih fun other hother => h other (List.mem_cons_of_mem l hother)]
    rfl

theorem feed_flatMap_bytes {written : List SseLine} (h : ∀ l ∈ written, 10 ∉ l.content) :
    SseDecoder.feed {} (written.flatMap bytes) =
      SseDecoder.takeLines {} ((written.map content).map chars) := by
  have hlines : (written.map withReturn).map SseDecoder.lineText =
      (written.map content).map chars := by
    rw [List.map_map, List.map_map]
    exact List.map_congr_left fun l _ => l.lineText_withReturn
  simp only [SseDecoder.feed, List.nil_append, splitOn_flatMap_bytes h, List.dropLast_concat,
    List.getLastD_concat, hlines]

theorem IsNoise.not_mem {line : List UInt8} (h : IsNoise line) : 10 ∉ line := by
  cases h with
  | comment htext => simp [htext]
  | bare hname => exact hname.no_lineFeed
  | valued hname hvalue => simp [hname.no_lineFeed, hvalue]

theorem Noisy.not_mem {lines noisy : List (List UInt8)} (h : Noisy lines noisy)
    (hlines : ∀ line ∈ lines, 10 ∉ line) : ∀ line ∈ noisy, 10 ∉ line := by
  induction h with
  | nil => exact hlines
  | keep line _ ih =>
    rw [List.forall_mem_cons] at hlines ⊢
    exact ⟨hlines.1, ih hlines.2⟩
  | noise hline _ ih => exact List.forall_mem_cons.mpr ⟨hline.not_mem, ih hlines⟩

end SseLine

/-! ## Noise means nothing -/

namespace SseDecoder

/-- A line that is neither empty nor a comment is a field. -/
theorem takeLine_of_head {d : SseDecoder} {c : Char} {line : List Char} (hc : c ≠ ':') :
    d.takeLine (c :: line) =
      (d.takeField (fieldOf (c :: line)).1 (fieldOf (c :: line)).2, none) := by
  unfold takeLine
  split
  · next h => cases h
  · next h => exact absurd (List.cons.inj h).1 hc
  · rfl

theorem fst_fieldOf_append_cons {field : List Char} (h : ':' ∉ field) (value : List Char) :
    (fieldOf (field ++ ':' :: value)).1 = field := by
  rw [fieldOf, Text.splitAt?_append_cons h]
  split
  · next hsome => exact (Prod.mk.inj (Option.some.inj hsome)).1.symm
  · next hsome => exact (Prod.mk.inj (Option.some.inj hsome)).1.symm
  · next hnone => cases hnone

theorem fieldOf_append_space {field : List Char} (h : ':' ∉ field) (value : List Char) :
    fieldOf (field ++ ':' :: ' ' :: value) = (field, value) := by
  rw [fieldOf, Text.splitAt?_append_cons h]
  rfl

theorem fst_fieldOf_of_not_mem {field : List Char} (h : ':' ∉ field) :
    (fieldOf field).1 = field := by
  rw [fieldOf, Text.splitAt?_of_not_mem h]

theorem takeField_of_ne {d : SseDecoder} {field : List Char} (hdata : field ≠ "data".toList)
    (hevent : field ≠ "event".toList) (value : List Char) : d.takeField field value = d := by
  rw [takeField, if_neg hdata, if_neg hevent]

end SseDecoder

namespace SseLine

/-- The name of another field is read as the name of another field, which is not empty. -/
theorem IsOtherName.exists_chars {name : List UInt8} (h : IsOtherName name) :
    ∃ c cs, chars name = c :: cs ∧ ':' ∉ c :: cs ∧ c :: cs ≠ "data".toList ∧
      c :: cs ≠ "event".toList := by
  have hne {s : String} (hs : ∀ c ∈ s.toList, c.toNat < 0x80) (hname : name ≠ Utf8.encode s) :
      chars name ≠ s.toList :=
    fun heq => hname (Utf8.eq_encode_of_decodeLossy_eq hs (String.toList_inj.mp heq))
  have hempty : chars name ≠ "".toList := hne (by simp) h.ne_nil
  have hdata := hne (s := "data") (by simp) h.ne_data
  have hevent := hne (s := "event") (by simp) h.ne_event
  have hcolon : ':' ∉ chars name := fun hmem =>
    h.no_colon (Utf8.mem_of_mem_decodeLossy (by decide) hmem)
  cases hcs : chars name with
  | nil => exact absurd hcs hempty
  | cons c cs =>
    rw [hcs] at hcolon hdata hevent
    exact ⟨c, cs, rfl, hcolon, hdata, hevent⟩

/-- A colon is read as a colon, also between bytes that are no text. -/
theorem chars_append_cons (xs ys : List UInt8) :
    chars (xs ++ 58 :: ys) = chars xs ++ ':' :: chars ys :=
  Utf8.decodeLossy_append_cons (b := 58) (by decide) xs ys

/-- The decoder passes over a line that means nothing. -/
theorem IsNoise.takeLine_eq {line : List UInt8} (h : IsNoise line) (d : SseDecoder) :
    d.takeLine (chars line) = (d, none) := by
  cases h with
  | @comment text _ =>
    rw [← List.nil_append (58 :: text), chars_append_cons]
    rfl
  | bare hname =>
    obtain ⟨c, cs, hcs, hcolon, hdata, hevent⟩ := hname.exists_chars
    have hc : c ≠ ':' := fun heq => hcolon (heq ▸ List.mem_cons_self)
    rw [hcs, SseDecoder.takeLine_of_head hc, SseDecoder.fst_fieldOf_of_not_mem hcolon,
      SseDecoder.takeField_of_ne hdata hevent]
  | @valued name value hname _ =>
    obtain ⟨c, cs, hcs, hcolon, hdata, hevent⟩ := hname.exists_chars
    have hc : c ≠ ':' := fun heq => hcolon (heq ▸ List.mem_cons_self)
    have hfield := SseDecoder.fst_fieldOf_append_cons hcolon (chars value)
    rw [List.cons_append] at hfield
    rw [chars_append_cons, hcs, List.cons_append, SseDecoder.takeLine_of_head hc, hfield,
      SseDecoder.takeField_of_ne hdata hevent]

/-- So the decoder does with noise among lines what it does with the lines alone. -/
theorem Noisy.takeLines_eq {lines noisy : List (List UInt8)} (h : Noisy lines noisy)
    (d : SseDecoder) :
    d.takeLines (noisy.map chars) = d.takeLines (lines.map chars) := by
  induction h generalizing d with
  | nil => rfl
  | keep line _ ih => simp only [List.map_cons, SseDecoder.takeLines, ih]
  | noise hline _ ih =>
    simp only [List.map_cons, SseDecoder.takeLines, hline.takeLine_eq, ih]
    rfl

end SseLine

/-! ## Events are read back -/

namespace SseDecoder

theorem takeLine_field (d : SseDecoder) {c : Char} {cs : List Char} (h : ':' ∉ c :: cs)
    (value : List Char) :
    d.takeLine (c :: cs ++ ':' :: ' ' :: value) = (d.takeField (c :: cs) value, none) := by
  have hc : c ≠ ':' := fun heq => h (heq ▸ List.mem_cons_self)
  have hfield := fieldOf_append_space h value
  rw [List.cons_append] at hfield ⊢
  rw [takeLine_of_head hc, hfield]

theorem takeLine_name (d : SseDecoder) (name : String) :
    d.takeLine ("event: " ++ name).toList = ({ d with name := some name }, none) := by
  have hline : ("event: " ++ name).toList = "event".toList ++ ':' :: ' ' :: name.toList := by
    rw [String.toList_append]
    rfl
  have htake : d.takeLine ("event".toList ++ ':' :: ' ' :: name.toList) =
      (d.takeField "event".toList name.toList, none) := d.takeLine_field (by decide) name.toList
  rw [hline, htake, takeField, if_neg (by decide), if_pos rfl, String.ofList_toList]

theorem takeLine_part (d : SseDecoder) (part : List Char) :
    d.takeLine ("data: " ++ String.ofList part).toList =
      ({ d with data := d.data ++ [String.ofList part] }, none) := by
  have hline : ("data: " ++ String.ofList part).toList = "data".toList ++ ':' :: ' ' :: part := by
    have hpart : (String.ofList part).toList = part := String.toList_ofList
    rw [String.toList_append, hpart]
    rfl
  have htake : d.takeLine ("data".toList ++ ':' :: ' ' :: part) =
      (d.takeField "data".toList part, none) := d.takeLine_field (by decide) part
  rw [hline, htake, takeField, if_pos rfl]

theorem takeLines_parts (d : SseDecoder) (parts : List (List Char)) :
    d.takeLines (parts.map fun part => ("data: " ++ String.ofList part).toList) =
      ({ d with data := d.data ++ parts.map String.ofList }, []) := by
  induction parts generalizing d with
  | nil => simp [takeLines]
  | cons part parts ih =>
    simp only [List.map_cons, takeLines, takeLine_part, ih, List.append_assoc,
      List.singleton_append, Option.toList_none, List.nil_append]

end SseDecoder

namespace SseFrame

/-- The parts of the data make up the data. -/
theorem intercalate_parts (f : SseFrame) :
    "\n".intercalate (f.parts.map String.ofList) = f.data := by
  have hparts : (f.parts.map String.ofList).map String.toList = f.parts := by
    rw [List.map_map]
    exact (List.map_congr_left fun part _ => String.toList_ofList).trans (List.map_id _)
  rw [← String.toList_inj, String.toList_intercalate, hparts]
  exact List.intercalate_splitOn '\n'

theorem parts_ne_nil (f : SseFrame) : f.parts ≠ [] :=
  List.splitOn_ne_nil _ _

/-- The lines of the data and the empty line behind them end the event that was begun. -/
theorem takeLines_parts_concat (f : SseFrame) (name? : Option String) :
    SseDecoder.takeLines { name := name? }
        (f.parts.map (fun part => ("data: " ++ String.ofList part).toList) ++ [[]]) =
      ({}, [⟨name?.getD "message", f.data⟩]) := by
  have hne : f.parts.map String.ofList ≠ [] := mt List.map_eq_nil_iff.mp f.parts_ne_nil
  rw [SseDecoder.takeLines_append, SseDecoder.takeLines_parts]
  simp only [SseDecoder.takeLines, SseDecoder.takeLine, SseDecoder.dispatch, List.nil_append,
    List.isEmpty_eq_false_iff.mpr hne, f.intercalate_parts]
  rfl

/-- An event is read back, and nothing of it is left for the next one. -/
theorem takeLines_lines (f : SseFrame) :
    SseDecoder.takeLines {} (f.lines.map SseLine.chars) = ({}, [f.event]) := by
  have hparts : (f.parts.map fun part => Utf8.encode ("data: " ++ String.ofList part)).map
      SseLine.chars = f.parts.map fun part => ("data: " ++ String.ofList part).toList := by
    rw [List.map_map]
    exact List.map_congr_left fun part _ => SseLine.chars_encode _
  have hblank : SseLine.chars [] = [] := SseLine.chars_encode ""
  rw [lines, List.append_assoc, List.map_append, List.map_append, hparts, List.map_singleton,
    hblank]
  cases hname : f.name? with
  | none =>
    rw [event, hname]
    exact f.takeLines_parts_concat none
  | some name =>
    have hrest := f.takeLines_parts_concat (some name)
    rw [event, hname]
    simp only [Option.map_some, Option.toList_some, List.map_singleton, List.singleton_append,
      SseLine.chars_encode, SseDecoder.takeLines, SseDecoder.takeLine_name]
    rw [hrest]
    rfl

theorem Spaced.takeLines_eq {frames : List SseFrame} {lines : List (List UInt8)}
    (h : Spaced frames lines) :
    SseDecoder.takeLines {} (lines.map SseLine.chars) = ({}, frames.map event) := by
  induction h with
  | nil => rfl
  | gap _ ih =>
    have hblank : SseLine.chars [] = [] := SseLine.chars_encode ""
    rw [List.map_cons, hblank]
    exact ih
  | frame f _ ih =>
    rw [List.map_append, SseDecoder.takeLines_append, f.takeLines_lines, ih]
    rfl

theorem not_mem_lines (f : SseFrame) : ∀ line ∈ f.lines, 10 ∉ line := by
  have hencode {s : String} (hs : '\n' ∉ s.toList) : 10 ∉ Utf8.encode s :=
    fun hmem => hs (Utf8.mem_of_mem_encode (b := 10) (by decide) hmem)
  intro line hline
  rw [lines, List.mem_append, List.mem_append, Option.mem_toList, Option.map_eq_some_iff,
    List.mem_map, List.mem_singleton] at hline
  rcases hline with (⟨name, hname, rfl⟩ | ⟨part, hpart, rfl⟩) | rfl
  · have hone := f.name_oneLine name hname
    exact hencode (by rw [String.toList_append]; simp [hone])
  · have hone := Text.not_mem_of_mem_splitOn hpart
    exact hencode (by rw [String.toList_append]; simp [hone])
  · exact List.not_mem_nil

theorem Spaced.not_mem {frames : List SseFrame} {lines : List (List UInt8)}
    (h : Spaced frames lines) : ∀ line ∈ lines, 10 ∉ line := by
  induction h with
  | nil => exact List.forall_mem_nil _
  | gap _ ih => exact List.forall_mem_cons.mpr ⟨List.not_mem_nil, ih⟩
  | frame f _ ih => exact List.forall_mem_append.mpr ⟨f.not_mem_lines, ih⟩

/-- Whatever pieces the bytes come in that write some events, a new decoder gives exactly these
events in their order, each with its name and its data, and nothing is left in it. An event without
a name comes out as a message. -/
theorem read_back {frames : List SseFrame} {body : List UInt8} (h : Written frames body)
    {pieces : List (List UInt8)} (hpieces : pieces.flatten = body) :
    SseDecoder.feedAll {} pieces = ({}, frames.map event) := by
  obtain ⟨lines, hlines, written, hnoisy, rfl⟩ := h
  have hnoisyLines := hnoisy.not_mem hlines.not_mem
  have hwritten : ∀ l ∈ written, 10 ∉ l.content :=
    fun l hl => hnoisyLines l.content (List.mem_map_of_mem hl)
  rw [SseDecoder.feedAll_eq_feed .fresh, hpieces, SseLine.feed_flatMap_bytes hwritten,
    hnoisy.takeLines_eq, hlines.takeLines_eq]

/-- Two events are written with a comment that is no text, another field, both ends of lines and
an empty line between them, and cut inside a name and inside the end of a line. -/
theorem read_back_around_noise :
    Written [⟨some "up", "a\n", by decide⟩, ⟨none, "", by decide⟩]
        (Utf8.encode "event: up\r\n:" ++ 255 ::
          Utf8.encode "\ndata: a\nid: 7\r\ndata: \n\n\r\ndata: \r\n\n") ∧
      SseDecoder.feedAll {}
          [Utf8.encode "event: u", Utf8.encode "p\r", Utf8.encode "\n:", [255],
            Utf8.encode "\ndata: a\nid: 7\r\ndata: \n\n\r\ndata: \r\n", [], [10]] =
        ({}, [⟨"up", "a\n"⟩, ⟨"message", ""⟩]) := by
  have hid : SseLine.IsOtherName (Utf8.encode "id") :=
    ⟨by decide, by decide, by decide, by decide, by decide⟩
  have hwritten : Written [⟨some "up", "a\n", by decide⟩, ⟨none, "", by decide⟩]
      (Utf8.encode "event: up\r\n:" ++ 255 ::
        Utf8.encode "\ndata: a\nid: 7\r\ndata: \n\n\r\ndata: \r\n\n") := by
    refine ⟨_, .frame _ (.gap (.frame _ .nil)),
      [⟨Utf8.encode "event: up", .crlf, by decide⟩, ⟨[58, 255], .lf, by decide⟩,
        ⟨Utf8.encode "data: a", .lf, by decide⟩, ⟨Utf8.encode "id: 7", .crlf, by decide⟩,
        ⟨Utf8.encode "data: ", .lf, by decide⟩, ⟨[], .lf, by decide⟩, ⟨[], .crlf, by decide⟩,
        ⟨Utf8.encode "data: ", .crlf, by decide⟩, ⟨[], .lf, by decide⟩], ?_, by decide⟩
    have hseven : SseLine.IsNoise (Utf8.encode "id: 7") :=
      @SseLine.IsNoise.valued _ [32, 55] hid (by decide)
    exact .keep _ (.noise (.comment (by decide)) (.keep _ (.noise hseven (.keep _ (.keep _
      (.keep _ (.keep _ (.keep _ .nil))))))))
  exact ⟨hwritten, read_back hwritten (by decide)⟩

end SseFrame

end TaskDesk
