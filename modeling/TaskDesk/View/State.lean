import TaskDesk.View.Page

/-!
# The state of a list view

A list is paged by the server, which sends one page per query, or by the client, which fetches
the whole list once and shows slices of it.

## Main definitions

* `PagingMode`, `ListState`, `ListState.initial`, `ListState.ofQuery`.
* `ListState.view`: what is shown.
* `Snapshot`, `ListState.load`: the result of a fetch and how it changes the state.

## Design notes

The flag `dirty` says that something may have changed since the front end last looked; it is
taken down by `ListState.consumeDirty` alone.
-/

namespace TaskDesk

/-- Who pages a list. -/
inductive PagingMode where
  | server
  | client
deriving DecidableEq, Repr, Inhabited

/-- The tasks that a fetch brought, and how many there are altogether. -/
structure Snapshot where
  tasks : List TaskRecord
  total : Nat
deriving Repr, Inhabited

namespace Snapshot

def ofPage (p : TaskPage) : Snapshot :=
  ⟨p.tasks, p.total⟩

def full (tasks : List TaskRecord) : Snapshot :=
  ⟨tasks, tasks.length⟩

end Snapshot

/-- The state of a list view. -/
structure ListState where
  mode : PagingMode := .server
  query : ListQuery := {}
  cursor : PageCursor := default
  selection : Selection := {}
  /-- The page of the server, or the whole list. -/
  tasks : List TaskRecord := []
  page : ShownPage := {}
  /-- Every identifier that a fetch ever brought. -/
  seen : List TaskId := []
  polling : Bool := false
  loading : Bool := false
  authInvalid : Bool := false
  disposed : Bool := false
  dirty : Bool := false
deriving Repr, Inhabited

namespace ListState

/-- A list that nothing has happened to. -/
def initial : ListState := {}

/-- A list that starts with a query. A client-paged list fetches everything at once, so there
the page only moves the cursor. -/
def ofQuery (mode : PagingMode) (query : ListQuery) : ListState :=
  let size := max 1 query.size
  let cursor := PageCursor.of query.page size 0
  let page :=
    match mode with
    | .server => cursor.page
    | .client => 1
  { mode, cursor, query := { query with size, page } }

/-- A list without filters, on its first page. -/
def ofMode (mode : PagingMode) (pageSize : Nat) : ListState :=
  ofQuery mode { size := pageSize }

def view (s : ListState) : ListView where
  rows := s.page.rows
  mark := s.page.mark
  cursor := s.cursor
  selectedCount := s.selection.size
  statusFilter := s.query.status
  kindFilter := s.query.kind
  polling := s.polling
  loading := s.loading
  authInvalid := s.authInvalid
  dirty := s.dirty

/-- Something changed. -/
def touch (s : ListState) : ListState :=
  { s with dirty := true }

/-- Takes the dirty flag down and says whether it was up. -/
def consumeDirty (s : ListState) : Bool × ListState :=
  (s.dirty, { s with dirty := false })

def setLoading (s : ListState) (loading : Bool) : ListState :=
  if s.loading = loading then s else { s with loading }.touch

/-- The credential was rejected. -/
def rejectCredential (s : ListState) : ListState :=
  { s with authInvalid := true, loading := false }.touch

/-- The tasks that belong on the screen. -/
def visibleTasks (s : ListState) : List TaskRecord :=
  match s.mode with
  | .server => s.tasks
  | .client => s.cursor.slice s.tasks

/-- Some fetched task is active. -/
def hasActiveWork (s : ListState) : Bool :=
  s.tasks.any TaskRecord.isActive

def rebuild (s : ListState) : ListState :=
  { s with page := ShownPage.of s.visibleTasks s.selection s.cursor }.touch

def remark (s : ListState) : ListState :=
  { s with page := s.page.remark s.selection }.touch

/-- Takes in the result of a fetch. Says also whether the page asked for was past the end, in a
list paged by the server; the query is then for the last page. -/
def load (s : ListState) (snapshot : Snapshot) : Bool × ListState :=
  let s :=
    { s with
      seen := s.seen ++ snapshot.tasks.map TaskRecord.id
      tasks := snapshot.tasks
      authInvalid := false
      loading := false }
  match s.mode with
  | .server =>
    -- Since the page was asked for, tasks may have gone, and with them the page.
    let asked := PageCursor.of s.query.page s.query.size snapshot.total
    let cursor := asked.clamped
    (asked.page != cursor.page,
      { s with cursor, query := { s.query with page := cursor.page } }.rebuild)
  | .client =>
    (false, { s with cursor := { s.cursor with total := snapshot.total }.clamped }.rebuild)

/-- Shows another page of a list paged by the client. -/
def setClientPage (s : ListState) (page : Nat) : ListState :=
  { s with cursor := { s.cursor with page }.clamped }.rebuild

/-- Back to the first page, in the query and on the screen. -/
def toFirstPage (s : ListState) : ListState :=
  { s with query := { s.query with page := 1 }, cursor := { s.cursor with page := 1 } }

/-- Another page size, from the first page on. -/
def setPageSize (s : ListState) (size : Nat) : ListState :=
  let query :=
    match s.mode with
    | .server => { s.query with size, page := 1 }
    -- The query of a list paged by the client carries no paging.
    | .client => s.query
  { s with query, cursor := { s.cursor with pageSize := size, page := 1 } }

/-- Changes the tick of a task that some fetch brought. -/
def toggleTask (s : ListState) (id : TaskId) : ListState :=
  if s.seen.contains id then { s with selection := s.selection.toggle id }.remark else s

def toggleShown (s : ListState) : ListState :=
  { s with selection := s.selection.toggleAll s.page.ids }.remark

def clearSelection (s : ListState) : ListState :=
  { s with selection := {} }.remark

def forget (s : ListState) (ids : List TaskId) : ListState :=
  { s with selection := s.selection.removeAll ids }.remark

end ListState

end TaskDesk
