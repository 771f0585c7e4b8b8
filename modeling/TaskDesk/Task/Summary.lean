import TaskDesk.Media

/-!
# Summaries of request payloads

The text that stands for a task's request in a row of a list.

## Main definitions

* `Summary.cut`: a text shortened to 30 code points.
* `Summary.ofPayload`: the summary of a payload.
-/

namespace TaskDesk.Summary

/-- Code points that are shown. -/
def limit : Nat := 30

/-- A text of more than `limit` code points is cut there and gets three dots. -/
def cut (text : String) : String :=
  let cs := text.toList
  if cs.length > limit then String.ofList (cs.take limit) ++ "..." else text

/-- The prompt, else the content of the last message. -/
def ofPayload (payload : Json) : String :=
  if payload.isNull then "-"
  else
    match Json.visibleText? (payload.member? "prompt") with
    | some prompt => cut prompt
    | none =>
      match (payload.member? "messages").bind Json.items? with
      | some messages =>
        match messages.getLast? with
        | some message =>
          match message.member? "content" with
          | some (.str content) => cut content
          | _ => "[multimodal content]"
        | none => "see details"
      | none => "see details"

end TaskDesk.Summary
