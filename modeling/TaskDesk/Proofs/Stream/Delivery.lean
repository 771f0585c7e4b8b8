import TaskDesk.Proofs.Stream.Pieces
import TaskDesk.Stream.Update

/-!
# What a progress stream delivers

A stream hands out one value or failure at a time, from a queue of values that have come, a decoder
and a body. Handing out changes no order: the queue is emptied before the body goes on, and a
failure goes past the decoder, so an event that is cut by failures is completed behind them.

## Main definitions

- `TaskStream.bytesOf` — the bytes of a body, with the failures left out
- `TaskStream.given` — what one item of a body gives, behind the items before it

## Main results

- `TaskStream.results_append` — a body delivers what its front delivers, and then the rest
- `TaskStream.results_in_order` — nothing is lost, repeated or moved, however the body was cut
-/

namespace TaskDesk.TaskStream

open Json

/-- An item of a body: bytes, or a failure of the connection. -/
abbrev Item := Except ApiError (List UInt8)

/-- The bytes of a body in the pieces that they come in. -/
def chunksOf (body : List Item) : List (List UInt8) :=
  body.filterMap Except.toOption

/-- The bytes of a body. -/
def bytesOf (body : List Item) : List UInt8 :=
  (chunksOf body).flatten

/-- The events that bytes complete when they come behind a part of a body. -/
def completed (before : List Item) (bytes : List UInt8) : List SseEvent :=
  ((SseDecoder.feed {} (bytesOf before)).1.feed bytes).2

/-- What an item gives behind a part of a body: a failure gives itself, and bytes give the values
of the messages that they complete. -/
def given (before : List Item) : Item → List (Except ApiError Json)
  | .error e => [.error e]
  | .ok bytes => ((completed before bytes).filterMap valueOf?).map .ok

/-- The failure, if it is one. -/
def failure? {α : Type} : Except ApiError α → Option ApiError
  | .error e => some e
  | .ok _ => none

/-! ## One call after the other -/

theorem results_of_next_none {s s' : TaskStream} (h : s.next = (none, s')) : results s = [] := by
  rw [results, h]

theorem results_of_next_some {s s' : TaskStream} {r : Except ApiError Json}
    (h : s.next = (some r, s')) : results s = r :: results s' := by
  rw [results, h]

/-- Streams with the same next result go on in the same way. -/
theorem results_congr {s s' : TaskStream} (h : s.next = s'.next) : results s = results s' := by
  rcases hs : s.next with ⟨_ | r, rest⟩
  · rw [results_of_next_none hs, results_of_next_none (h.symm.trans hs)]
  · rw [results_of_next_some hs, results_of_next_some (h.symm.trans hs)]

/-- The values that have come are handed out before the body goes on. -/
theorem results_pending (body : List Item) (decoder : SseDecoder) (pending : List Json) :
    results { body, decoder, pending } = pending.map .ok ++ results { body, decoder } := by
  induction pending with
  | nil => rfl
  | cons value pending ih => rw [results_of_next_some rfl, ih]; rfl

theorem results_nil (decoder : SseDecoder) : results { decoder } = [] :=
  results_of_next_none rfl

/-- An item gives its values or its failure, and the rest of the body comes behind them. -/
theorem results_cons (item : Item) (body : List Item) (decoder : SseDecoder) :
    results { body := item :: body, decoder } =
      (valuesOf decoder item).2 ++ results { body, decoder := (valuesOf decoder item).1 } := by
  cases item with
  | error e => exact results_of_next_some rfl
  | ok bytes =>
    have hnext : next { body := .ok bytes :: body, decoder } =
        pull decoder (.ok bytes :: body) := rfl
    simp only [pull] at hnext
    -- Without a value the same call goes on in the body; otherwise the first one is handed out and
    -- the others are pending.
    cases hvalues : (decoder.feed bytes).2.filterMap valueOf? with
    | nil =>
      rw [hvalues] at hnext
      simp only [valuesOf, hvalues, List.map_nil, List.nil_append]
      exact results_congr hnext
    | cons value pending =>
      rw [hvalues] at hnext
      simp only [valuesOf, hvalues, List.map_cons, List.cons_append]
      rw [results_of_next_some hnext, results_pending]

/-! ## A whole body -/

/-- A failure goes past the decoder. -/
theorem valuesOf_fst (decoder : SseDecoder) (item : Item) :
    (valuesOf decoder item).1 = (decoder.feedAll (chunksOf [item])).1 := by
  cases item <;> rfl

theorem chunksOf_append (xs ys : List Item) :
    chunksOf (xs ++ ys) = chunksOf xs ++ chunksOf ys :=
  List.filterMap_append

theorem chunksOf_map_ok (pieces : List (List UInt8)) : chunksOf (pieces.map .ok) = pieces := by
  induction pieces with
  | nil => rfl
  | cons piece pieces ih => exact congrArg (piece :: ·) ih

/-- The front of a body delivers what it delivers alone, and leaves its decoder to the rest. -/
theorem results_append (xs ys : List Item) (decoder : SseDecoder) :
    results { body := xs ++ ys, decoder } =
      results { body := xs, decoder } ++
        results { body := ys, decoder := (decoder.feedAll (chunksOf xs)).1 } := by
  induction xs generalizing decoder with
  | nil => rw [results_nil]; rfl
  | cons item xs ih =>
    have hrest : ((valuesOf decoder item).1.feedAll (chunksOf xs)).1 =
        (decoder.feedAll (chunksOf (item :: xs))).1 := by
      rw [valuesOf_fst, ← SseDecoder.fst_feedAll_append, ← chunksOf_append]
      rfl
    rw [List.cons_append, results_cons, results_cons, ih, hrest, List.append_assoc]

/-- The decoder behind a part of a body is the one that its bytes lead to. -/
theorem feedAll_chunksOf (body : List Item) :
    (SseDecoder.feedAll {} (chunksOf body)).1 = (SseDecoder.feed {} (bytesOf body)).1 := by
  rw [SseDecoder.feedAll_eq_feed .fresh]
  rfl

theorem valuesOf_snd (before : List Item) (item : Item) :
    (valuesOf (SseDecoder.feed {} (bytesOf before)).1 item).2 = given before item := by
  cases item <;> rfl

/-- The rest of a body gives, item by item, what comes behind the part before it. -/
theorem results_behind (before body : List Item) :
    results { body, decoder := (SseDecoder.feed {} (bytesOf before)).1 } =
      (body.mapIdx fun i item => given (before ++ body.take i) item).flatten := by
  -- Each item moves from the rest to the part before it.
  induction body generalizing before with
  | nil => exact results_nil _
  | cons item body ih =>
    have hdecoder : (valuesOf (SseDecoder.feed {} (bytesOf before)).1 item).1 =
        (SseDecoder.feed {} (bytesOf (before ++ [item]))).1 := by
      rw [valuesOf_fst, ← feedAll_chunksOf, ← SseDecoder.fst_feedAll_append, ← chunksOf_append,
        feedAll_chunksOf]
    rw [results_cons, valuesOf_snd, hdecoder, ih, List.mapIdx_cons, List.flatten_cons]
    simp only [List.take_zero, List.append_nil, List.take_succ_cons, List.append_assoc,
      List.singleton_append]

theorem failures_results (body : List Item) (decoder : SseDecoder) :
    (results { body, decoder }).filterMap failure? = body.filterMap failure? := by
  induction body generalizing decoder with
  | nil => rw [results_nil]; rfl
  | cons item body ih =>
    rw [results_cons, List.filterMap_append, ih]
    cases item with
    | error e => rfl
    | ok bytes =>
      rw [valuesOf, List.filterMap_map, List.filterMap_cons_none rfl]
      simp [failure?, Function.comp_def]

theorem values_results (body : List Item) (decoder : SseDecoder) :
    (results { body, decoder }).filterMap Except.toOption =
      (decoder.feedAll (chunksOf body)).2.filterMap valueOf? := by
  induction body generalizing decoder with
  | nil => rw [results_nil]; rfl
  | cons item body ih =>
    rw [results_cons, List.filterMap_append, ih]
    cases item with
    | error e => rfl
    | ok bytes =>
      simp [valuesOf, chunksOf, SseDecoder.feedAll, List.filterMap_map, Function.comp_def,
        Except.toOption]

/-- Bytes without a failure between them give the values of the messages that they complete. -/
theorem results_map_ok (pieces : List (List UInt8)) (decoder : SseDecoder) :
    results { body := pieces.map .ok, decoder } =
      ((decoder.feedAll pieces).2.filterMap valueOf?).map .ok := by
  induction pieces generalizing decoder with
  | nil => exact results_nil _
  | cons piece pieces ih =>
    rw [List.map_cons, results_cons, ih]
    simp only [valuesOf, SseDecoder.feedAll, List.filterMap_append, List.map_append]

/-- Pieces between two parts of a body may be cut in another way. -/
theorem results_recut (before after : List Item) {pieces others : List (List UInt8)}
    (h : pieces.flatten = others.flatten) :
    results { body := before ++ pieces.map .ok ++ after } =
      results { body := before ++ others.map .ok ++ after } := by
  have hsame : ∀ {d : SseDecoder}, d.Reachable → d.feedAll pieces = d.feedAll others := by
    intro d hd
    rw [SseDecoder.feedAll_eq_feed hd, SseDecoder.feedAll_eq_feed hd, h]
  have hreachable : (SseDecoder.feedAll {} (chunksOf before)).1.Reachable := by
    rw [feedAll_chunksOf]
    exact .fed .fresh _
  simp only [List.append_assoc, results_append, results_map_ok, chunksOf_map_ok, hsame hreachable]

/-- A body delivers item by item: bytes give the values of the messages that they complete, and a
failure gives itself at its place. So the failures of a body come in their order; the values come in
the order of the messages in its bytes, whatever failures cut these; and bytes that come in other
pieces give the same. -/
theorem results_in_order (body : List Item) :
    results { body } = (body.mapIdx fun i item => given (body.take i) item).flatten ∧
      (results { body }).filterMap failure? = body.filterMap failure? ∧
      (results { body }).filterMap Except.toOption =
        (SseDecoder.feed {} (bytesOf body)).2.filterMap valueOf? ∧
      ∀ (before after : List Item) (pieces others : List (List UInt8)),
        body = before ++ pieces.map .ok ++ after → pieces.flatten = others.flatten →
          results { body } = results { body := before ++ others.map .ok ++ after } := by
  refine ⟨results_behind [] body, failures_results body _, ?_, ?_⟩
  · rw [values_results, SseDecoder.feedAll_eq_feed .fresh]
    rfl
  · rintro before after pieces others rfl hsame
    exact results_recut before after hsame

/-- A message is cut by a failure, and its second half completes two events behind it, of which one
is no message. The bytes behind the failure may be cut in another way. -/
theorem results_in_order_around_failure :
    results { body := [.ok (Utf8.encode "data: t"), .error ⟨.timeout, "slow"⟩,
        .ok (Utf8.encode "rue\n\nevent: x\ndata: 1\n\nda"), .ok (Utf8.encode "ta: null\n\n")] } =
      [.error ⟨.timeout, "slow"⟩, .ok (.bool true), .ok .null] ∧
    results { body := [.ok (Utf8.encode "data: t"), .error ⟨.timeout, "slow"⟩,
        .ok (Utf8.encode "rue\n\nevent: x\ndata: 1\n\nda"), .ok (Utf8.encode "ta: null\n\n")] } =
      results { body := [.ok (Utf8.encode "data: t"), .error ⟨.timeout, "slow"⟩,
        .ok (Utf8.encode "r"), .ok [],
        .ok (Utf8.encode "ue\n\nevent: x\ndata: 1\n\ndata: null\n\n")] } := by
  refine ⟨(results_in_order _).1.trans (by rfl), ?_⟩
  exact (results_in_order _).2.2.2 [.ok (Utf8.encode "data: t"), .error ⟨.timeout, "slow"⟩] []
    [Utf8.encode "rue\n\nevent: x\ndata: 1\n\nda", Utf8.encode "ta: null\n\n"]
    [Utf8.encode "r", [], Utf8.encode "ue\n\nevent: x\ndata: 1\n\ndata: null\n\n"] rfl (by decide)

end TaskDesk.TaskStream
