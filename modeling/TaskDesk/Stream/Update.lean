import TaskDesk.Api.World
import TaskDesk.Stream.Sse

/-!
# Progress streams

A progress stream is an event stream whose plain messages are JSON values. Other events and
messages that are no JSON are passed over. A failure of the connection stands between the values
where it happened and disturbs nothing else.

## Main definitions

* `TaskStream`, `TaskStream.next`: a stream and its next value or failure.
* `TaskStream.results`: what a stream gives until it ends.
* `StreamUpdate`, `StreamUpdate.read?`, `StreamUpdate.line`: a value as a report on a task.
-/

namespace TaskDesk

open Json

/-- A progress stream: what is still to come of its body, the decoder of its events, and the values
that have come and were not asked for yet. -/
structure TaskStream where
  body : List (Except ApiError (List UInt8)) := []
  decoder : SseDecoder := {}
  pending : List Json := []

namespace TaskStream

def valueOf? (e : SseEvent) : Option Json :=
  if e.name = "message" then Json.parse? (Utf8.encode e.data) else none

/-- Goes on in a body up to the next value or failure. -/
def pull (decoder : SseDecoder) :
    List (Except ApiError (List UInt8)) → Option (Except ApiError Json) × TaskStream
  | [] => (none, { decoder })
  | .error e :: body => (some (.error e), { body, decoder })
  | .ok bytes :: body =>
    let (decoder, events) := decoder.feed bytes
    match events.filterMap valueOf? with
    | [] => pull decoder body
    -- The other values of the piece wait until they are asked for.
    | value :: pending => (some (.ok value), { body, decoder, pending })

/-- The next value or failure, none after the end, and the stream after it. -/
def next (s : TaskStream) : Option (Except ApiError Json) × TaskStream :=
  match s.pending with
  | value :: pending => (some (.ok value), { s with pending })
  | [] => pull s.decoder s.body

theorem length_body_of_pull {decoder : SseDecoder} {body : List (Except ApiError (List UInt8))}
    {r : Except ApiError Json} {s : TaskStream} (h : pull decoder body = (some r, s)) :
    s.body.length < body.length := by
  induction body generalizing decoder with
  | nil => cases h
  | cons item body ih =>
    cases item with
    | error e =>
      obtain ⟨-, rfl⟩ := Prod.mk.inj h
      exact Nat.lt_succ_self _
    | ok bytes =>
      simp only [pull] at h
      split at h
      · exact Nat.lt_succ_of_lt (ih h)
      · obtain ⟨-, rfl⟩ := Prod.mk.inj h
        exact Nat.lt_succ_self _

/-- What a stream gives until it ends. -/
def results (s : TaskStream) : List (Except ApiError Json) :=
  match _h : s.next with
  | (none, _) => []
  | (some r, rest) => r :: results rest
termination_by (s.body.length, s.pending.length)
decreasing_by
  unfold next at _h
  split at _h
  · next hpending =>
    obtain ⟨-, rfl⟩ := Prod.mk.inj _h
    simp only [hpending]
    exact .right _ (Nat.lt_succ_self _)
  · exact .left _ _ (length_body_of_pull _h)

/-- The values and failures of a body. -/
def values (decoder : SseDecoder) (body : List (Except ApiError (List UInt8))) :
    List (Except ApiError Json) :=
  results { body, decoder }

/-- The values that a piece of a body completes, or its failure. -/
def valuesOf (decoder : SseDecoder) : Except ApiError (List UInt8) →
    SseDecoder × List (Except ApiError Json)
  | .ok bytes =>
    let (decoder, events) := decoder.feed bytes
    (decoder, (events.filterMap valueOf?).map .ok)
  | .error e => (decoder, [.error e])

end TaskStream

/-- A report on a task. -/
structure StreamUpdate where
  event : String := ""
  taskId : Option String := none
  status : Option TaskStatus := none
  progress : Option Binary64 := none
  message : Option String := none
  videoUrl : Option String := none
  thumbnailUrl : Option String := none
  error : Option String := none
deriving DecidableEq, Repr, Inhabited

namespace StreamUpdate

variable {σ : Type} [Source σ]

def read? (s : σ) : Option StreamUpdate := do
  let fields ← Fields.of? 8 s
  let text (position : Nat) (names : List String) : Option (Option String) :=
    fields.withDefault? position names none (Read.nullable Read.string)
  let event ← fields.withDefault? 0 ["type"] "" Read.string
  let taskId ← text 1 ["task_id", "taskId", "id"]
  let status ← text 2 ["status"]
  let progress ← fields.withDefault? 3 ["progress"] none (Read.nullable Read.float)
  let message ← text 4 ["message"]
  let videoUrl ← text 5 ["video_url"]
  let thumbnailUrl ← text 6 ["thumbnail_url"]
  let error ← text 7 ["error"]
  some
    { event, taskId, status := status.map TaskStatus.parse, progress, message, videoUrl
      thumbnailUrl, error }

def isFinal (u : StreamUpdate) : Bool :=
  u.event = "completed" || u.event = "failed" || u.event = "cancelled"

/-- Per cent without decimals; a half goes to the even number, and a minus stays even before a
zero. -/
def percent (x : Binary64) : String :=
  (if x.negative then "-" else "") ++ toString x.nearestEven ++ "%"

def line (u : StreamUpdate) : String :=
  let spaced (s : Option String) : String := (s.map (" " ++ ·)).getD ""
  u.event ++ spaced (u.status.map TaskStatus.label) ++ spaced (u.progress.map percent) ++
    spaced u.message ++ spaced u.videoUrl ++ spaced (u.error.map ("error: " ++ ·)) ++
    (if u.status = some .failed ∧ u.error = none then " (no reason given)" else "")

end StreamUpdate

end TaskDesk
