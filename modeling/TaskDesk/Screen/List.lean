import TaskDesk.Clock.Calendar
import TaskDesk.View.Page

/-!
# Task lists on the screen

A list is a heading, a warning if the credential was rejected, and then a table with one line for
each row, or one line that says that there are no rows.

## Main definitions

* `Screen.row`, `Screen.list`.
* `Screen.shortLink`: a link that fits on a line.
-/

namespace TaskDesk.Screen

def checkbox (selected : Bool) : String :=
  if selected then "[x]" else "[ ]"

def groupMark : GroupMark → String
  | .none => "[ ]"
  | .some => "[-]"
  | .all => "[x]"

/-- A link in full, but of a data URL only what comes before the data. -/
def shortLink (link : String) : String :=
  match Text.splitAt? [','] link.toList with
  | some (header, _) =>
    if "data:".toList.isPrefixOf link.toList then String.ofList header ++ ",..." else link
  | none => link

/-- What came of a task: its media, else its error. -/
def outcome (r : TaskRow) : String :=
  match r.media.bind Media.link, r.error with
  | some link, _ => shortLink link
  | none, some error => "error: " ++ error
  | none, none => ""

/-- A line without the blanks at its end. -/
def trimLine (line : String) : String :=
  String.ofList (Text.trimEnd line.toList)

def columns (mark id kind status progress created summary outcome : String) : String :=
  mark ++ " " ++ Text.padRight 36 id ++ " " ++ Text.padRight 5 kind ++ " " ++
    Text.padRight 10 status ++ " " ++ Text.padLeft 4 progress ++ " " ++
    Text.padRight 19 created ++ " " ++ Text.padRight 33 summary ++ " " ++ outcome

def row (r : TaskRow) : String :=
  trimLine
    (columns (checkbox r.selected) r.id r.kind.label r.status.label
      (Text.padLeft 3 (toString r.progress) ++ "%") (Timestamp.text r.createdAt) r.summary
      (outcome r))

/-- The filters of a list, as the heading names them. -/
def filters (v : ListView) : List String :=
  (v.statusFilter.toList.map fun s => "status=" ++ s.label) ++
    v.kindFilter.toList.map fun k => "type=" ++ k.label

def heading (v : ListView) : String :=
  "Page " ++ toString v.cursor.page ++ "/" ++ toString v.cursor.totalPages ++ "  (" ++
    toString v.cursor.total ++ " tasks" ++
    (match filters v with
      | [] => ""
      | names => ", " ++ " ".intercalate names) ++
    (if v.polling then ", refreshing" else "") ++ ")"

def columnLine (v : ListView) : String :=
  columns (groupMark v.mark) "ID" "TYPE" "STATUS" "PROG" "CREATED" "PROMPT" "RESULT"

def listLines (v : ListView) : List String :=
  heading v ::
    (if v.authInvalid then
      ["Credential rejected; set a new one with \x60task-console token\x60."]
    else []) ++
    (if v.rows.isEmpty then ["No tasks."]
    else
      columnLine v :: v.rows.map row ++
        if v.selectedCount > 0 then [toString v.selectedCount ++ " selected"] else [])

/-- Lines, each with its end. -/
def ofLines (lines : List String) : String :=
  String.join (lines.map (· ++ "\n"))

def list (v : ListView) : String :=
  ofLines (listLines v)

end TaskDesk.Screen
