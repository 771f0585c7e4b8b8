import TaskDesk.Proofs.Text.Piece
import TaskDesk.Stream.Sse

/-!
# Event streams that come in pieces

The decoder keeps what comes after the last line feed, and only that part of the bytes is open. So
bytes that come later continue the line that they would have continued, wherever the bytes were cut
between two pieces: inside a character, inside the name of a field, or inside the end of a line.

## Main definitions

- `SseDecoder.feedAll` — takes the pieces of a body one after the other
- `SseDecoder.Reachable` — the decoders that bytes lead to

## Main results

- `SseDecoder.feedAll_eq_feed` — the pieces of a body give what the whole body gives
- `SseDecoder.feed_in_pieces` — how bytes are cut makes no difference
-/

namespace TaskDesk.SseDecoder

/-! ## Complete lines

A complete line is taken without a look at the line that is not complete. -/

theorem takeField_buffer (d : SseDecoder) (buffer : List UInt8) (field value : List Char) :
    { d with buffer }.takeField field value = { d.takeField field value with buffer } := by
  unfold takeField
  split
  · rfl
  · split <;> rfl

theorem takeLine_buffer (d : SseDecoder) (buffer : List UInt8) (line : List Char) :
    { d with buffer }.takeLine line =
      ({ (d.takeLine line).1 with buffer }, (d.takeLine line).2) := by
  unfold takeLine
  split
  · simp only [dispatch]
    split <;> rfl
  · rfl
  · simp only [takeField_buffer]

theorem takeLines_buffer (d : SseDecoder) (buffer : List UInt8) (lines : List (List Char)) :
    { d with buffer }.takeLines lines =
      ({ (d.takeLines lines).1 with buffer }, (d.takeLines lines).2) := by
  induction lines generalizing d with
  | nil => rfl
  | cons line lines ih => simp only [takeLines, takeLine_buffer, ih]

theorem takeLines_append (d : SseDecoder) (lines others : List (List Char)) :
    d.takeLines (lines ++ others) =
      (((d.takeLines lines).1.takeLines others).1,
        (d.takeLines lines).2 ++ ((d.takeLines lines).1.takeLines others).2) := by
  induction lines generalizing d with
  | nil => rfl
  | cons line lines ih => simp only [List.cons_append, takeLines, ih, List.append_assoc]

/-! ## Two pieces -/

/-- The texts of the complete lines in some bytes. -/
def linesOf (bytes : List UInt8) : List (List Char) :=
  (bytes.splitOn 10).dropLast.map lineText

/-- What comes after the last line feed. -/
def restOf (bytes : List UInt8) : List UInt8 :=
  (bytes.splitOn 10).getLastD []

theorem feed_eq (d : SseDecoder) (bytes : List UInt8) :
    d.feed bytes =
      ({ (d.takeLines (linesOf (d.buffer ++ bytes))).1 with buffer := restOf (d.buffer ++ bytes) },
        (d.takeLines (linesOf (d.buffer ++ bytes))).2) :=
  takeLines_buffer d _ _

theorem not_mem_restOf (bytes : List UInt8) : 10 ∉ restOf bytes := by
  have hne := List.splitOn_ne_nil 10 bytes
  rw [restOf, List.getLastD_eq_getLast?, List.getLast?_eq_some_getLast hne]
  exact Text.not_mem_of_mem_splitOn (List.getLast_mem hne)

theorem splitOn_append_restOf (xs ys : List UInt8) :
    (xs ++ ys).splitOn 10 =
      (xs.splitOn 10).dropLast ++ (restOf xs ++ ys).splitOn 10 :=
  Text.splitOn_append 10 xs ys

/-- Bytes that come later complete the line that is open, and leave the complete lines alone. -/
theorem linesOf_append (xs ys : List UInt8) :
    linesOf (xs ++ ys) = linesOf xs ++ linesOf (restOf xs ++ ys) := by
  have hne := List.splitOn_ne_nil 10 (restOf xs ++ ys)
  rw [linesOf, splitOn_append_restOf, List.dropLast_append_of_ne_nil hne, List.map_append]
  rfl

theorem restOf_append (xs ys : List UInt8) : restOf (xs ++ ys) = restOf (restOf xs ++ ys) := by
  have hlast := List.getLast?_eq_some_getLast (List.splitOn_ne_nil 10 (restOf xs ++ ys))
  rw [restOf, splitOn_append_restOf, List.getLastD_eq_getLast?, List.getLast?_append, hlast,
    Option.some_or, ← hlast, ← List.getLastD_eq_getLast?]
  rfl

/-- What comes first is decoded first, and what comes next is decoded as if it had come with it. -/
theorem feed_append (d : SseDecoder) (xs ys : List UInt8) :
    d.feed (xs ++ ys) =
      (((d.feed xs).1.feed ys).1, (d.feed xs).2 ++ ((d.feed xs).1.feed ys).2) := by
  have hlines := linesOf_append (d.buffer ++ xs) ys
  have hrest := restOf_append (d.buffer ++ xs) ys
  simp only [feed_eq, takeLines_buffer, takeLines_append, ← List.append_assoc, hlines, hrest]

/-! ## Any number of pieces -/

/-- Takes the pieces of a body one after the other. -/
def feedAll (d : SseDecoder) : List (List UInt8) → SseDecoder × List SseEvent
  | [] => (d, [])
  | piece :: pieces =>
    let (d, events) := d.feed piece
    let (d, others) := feedAll d pieces
    (d, events ++ others)

theorem fst_feedAll_append (d : SseDecoder) (pieces others : List (List UInt8)) :
    (d.feedAll (pieces ++ others)).1 = ((d.feedAll pieces).1.feedAll others).1 := by
  induction pieces generalizing d with
  | nil => rfl
  | cons piece pieces ih => exact ih _

/-- What a decoder can become while bytes come. -/
inductive Reachable : SseDecoder → Prop
  | fresh : Reachable {}
  | fed {d : SseDecoder} (h : d.Reachable) (bytes : List UInt8) : Reachable (d.feed bytes).1

/-- The line that is not complete holds no line feed. -/
theorem Reachable.not_mem_buffer {d : SseDecoder} (h : d.Reachable) : 10 ∉ d.buffer := by
  cases h with
  | fresh => exact List.not_mem_nil
  | fed _ bytes =>
    rw [feed_eq]
    exact not_mem_restOf _

/-- Without a line feed in it, the open line stays open until bytes come. -/
theorem feed_nil {d : SseDecoder} (h : 10 ∉ d.buffer) : d.feed [] = (d, []) := by
  rw [feed, List.append_nil, List.splitOn_eq_singleton h]
  rfl

/-- The pieces of a body give what the whole body gives. -/
theorem feedAll_eq_feed {d : SseDecoder} (h : d.Reachable) (pieces : List (List UInt8)) :
    d.feedAll pieces = d.feed pieces.flatten := by
  induction pieces generalizing d with
  | nil => exact (feed_nil h.not_mem_buffer).symm
  | cons piece pieces ih =>
    rw [List.flatten_cons, feed_append, ← ih (h.fed piece)]
    rfl

/-- From every decoder that bytes lead to, two pieces of a body give the events of the first and
then those of the second, and leave the decoder that both leave together. So two ways to cut the
same bytes into pieces differ neither in the events nor in the decoder that they leave. -/
theorem feed_in_pieces {d : SseDecoder} (h : d.Reachable) :
    (∀ xs ys, d.feed (xs ++ ys) =
        (((d.feed xs).1.feed ys).1, (d.feed xs).2 ++ ((d.feed xs).1.feed ys).2)) ∧
      ∀ pieces others : List (List UInt8), pieces.flatten = others.flatten →
        d.feedAll pieces = d.feedAll others := by
  refine ⟨d.feed_append, fun pieces others hsame => ?_⟩
  rw [feedAll_eq_feed h, feedAll_eq_feed h, hsame]

/-- The bytes `data: ü` with an empty line behind it are cut inside the name of the field, inside
the last character and inside the end of the line, with nothing in between. -/
theorem feed_in_pieces_inside_character :
    Reachable (feed {} [100, 97]).1 ∧
      (feed {} [100, 97]).1.feedAll [[116, 97, 58, 32, 195], [188, 13], [], [10, 10]] =
        (feed {} [100, 97]).1.feedAll [[116, 97, 58, 32, 195, 188, 13, 10], [10]] :=
  have h : Reachable (feed {} [100, 97]).1 := .fed .fresh _
  ⟨h, (feed_in_pieces h).2 _ _ rfl⟩

end TaskDesk.SseDecoder
