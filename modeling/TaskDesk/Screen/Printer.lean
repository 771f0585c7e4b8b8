import TaskDesk.Api.Event
import TaskDesk.Screen.Task

/-!
# Events on the screen

Every event is printed when it comes. Lists are printed only if they are wanted, and then only
if they look different from the one before.

## Main definitions

* `ScreenPrinter`, `ScreenPrinter.print`.
-/

namespace TaskDesk

/-- Prints events. -/
structure ScreenPrinter where
  showLists : Bool
  /-- The list that was printed last. -/
  lastList : Option String := none
deriving DecidableEq, Repr

namespace ScreenPrinter

def levelWord : NoticeLevel → String
  | .info => "info"
  | .success => "ok"
  | .error => "error"

/-- A text with an end of its last line. -/
def closed (text : String) : String :=
  if ['\n'].isSuffixOf text.toList then text else text ++ "\n"

def print (p : ScreenPrinter) : Event → String × ScreenPrinter
  | .taskUpdated t =>
    (closed (t.id ++ " " ++ t.status.label ++ " " ++ toString t.progress ++ "%"), p)
  | .taskFinished t => (closed (Screen.task t), p)
  | .listRefreshed v =>
    let text := Screen.list v
    if !p.showLists ∨ p.lastList = some text then ("", p)
    else (closed text, { p with lastList := some text })
  | .authInvalid scope =>
    (closed ("error: the backend rejected the " ++ scope.label ++ "; it has been cleared"), p)
  | .notice level text => (closed (levelWord level ++ ": " ++ text), p)

/-- What is printed for events, one after the other. -/
def printAll (p : ScreenPrinter) : List Event → String × ScreenPrinter
  | [] => ("", p)
  | e :: es =>
    let (text, p) := p.print e
    let (more, p) := printAll p es
    (text ++ more, p)

end ScreenPrinter

end TaskDesk
