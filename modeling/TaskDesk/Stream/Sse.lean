import TaskDesk.Text.Scan
import TaskDesk.Text.Utf8

/-!
# Server-sent events

The body of an event stream is lines, ended by a line feed with or without a carriage return
before it. Lines give fields; an empty line ends an event. Bytes may come in pieces cut anywhere,
also inside a character or the end of a line: the decoder reads complete lines only and keeps what
it has of the last one until the rest of it comes.

## Main definitions

* `SseEvent`, `SseDecoder`.
* `SseDecoder.feed`: takes bytes and gives the events that they complete.
-/

namespace TaskDesk

/-- A complete event. -/
structure SseEvent where
  name : String
  data : String
deriving DecidableEq, Repr, Inhabited

/-- The line that is not complete yet, and the fields of the event being read. -/
structure SseDecoder where
  /-- The bytes that came after the last line feed. -/
  buffer : List UInt8 := []
  /-- The data lines, in order. -/
  data : List String := []
  name : Option String := none
deriving DecidableEq, Repr, Inhabited

namespace SseDecoder

/-- Ends an event. -/
def dispatch (d : SseDecoder) : SseDecoder × Option SseEvent :=
  let next := { d with data := [], name := none }
  -- Without a data line there is no event, and its name is forgotten.
  if d.data.isEmpty then (next, none)
  else (next, some ⟨d.name.getD "message", "\n".intercalate d.data⟩)

/-- The field and the value of a line; one space after the colon is not part of the value. -/
def fieldOf (line : List Char) : List Char × List Char :=
  match Text.splitAt? [':'] line with
  | some (field, ' ' :: value) => (field, value)
  | some (field, value) => (field, value)
  | none => (line, [])

def takeField (d : SseDecoder) (field value : List Char) : SseDecoder :=
  if field = "data".toList then { d with data := d.data ++ [String.ofList value] }
  else if field = "event".toList then { d with name := some (String.ofList value) }
  -- Other fields mean nothing here.
  else d

/-- Takes a complete line. -/
def takeLine (d : SseDecoder) (line : List Char) : SseDecoder × Option SseEvent :=
  match line with
  | [] => d.dispatch
  -- The line is a comment.
  | ':' :: _ => (d, none)
  | _ =>
    let (field, value) := fieldOf line
    (d.takeField field value, none)

/-- The text of a line without its line feed. -/
def lineText (line : List UInt8) : List Char :=
  -- A carriage return at the end is not part of the line.
  let line := if line.getLast? = some 13 then line.dropLast else line
  (Utf8.decodeLossy line).toList

/-- Takes complete lines and gives the events that they complete. -/
def takeLines (d : SseDecoder) : List (List Char) → SseDecoder × List SseEvent
  | [] => (d, [])
  | line :: lines =>
    let (d, event) := d.takeLine line
    let (d, events) := takeLines d lines
    (d, event.toList ++ events)

/-- Takes bytes and gives the events that they complete. -/
def feed (d : SseDecoder) (bytes : List UInt8) : SseDecoder × List SseEvent :=
  let parts := (d.buffer ++ bytes).splitOn 10
  -- The last part is not a complete line yet.
  { d with buffer := parts.getLastD [] }.takeLines (parts.dropLast.map lineText)

end SseDecoder

end TaskDesk
