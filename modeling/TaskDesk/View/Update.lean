import TaskDesk.View.State

/-!
# Messages, effects and the update function

Everything that happens to a list view is a message. `ListState.update` gives the next state and
what has to be done about it. It does nothing itself.

## Main definitions

* `Message`, `Effect`, `NoticeLevel`.
* `ListState.update`.
* `ListState.update?`: the same in a program that checks its sums.

## Design notes

A distance of pages can be so large that its sum with the page overflows. Whether a program goes
on then depends on how it was built. `ListState.update` is that of one that does: the sum has
become negative, which is no page. One that checks its sums stops, which is `ListState.update?`.
-/

namespace TaskDesk

/-- The tone of a notice. -/
inductive NoticeLevel where
  | info
  | success
  | error
deriving DecidableEq, Repr, Inhabited

/-- What can happen to a list view. -/
inductive Message where
  /-- The view opened, or the operator wants it fresh. -/
  | refreshRequested
  /-- A fetch came back. -/
  | pageLoaded (query : ListQuery) (snapshot : Snapshot)
  /-- A fetch failed, retries included. -/
  | loadFailed (reason : String)
  /-- So many pages on, or back. -/
  | pageChanged (delta : Int)
  | pageSizeChanged (size : Nat)
  | statusFilterChanged (status : Option TaskStatus)
  | kindFilterChanged (kind : Option TaskKind)
  /-- The operator ticked or unticked a row. -/
  | selectionToggled (id : TaskId)
  /-- The operator used the group control. -/
  | selectAllToggled
  | selectionCleared
  | batchDeleteRequested
  | batchDeleted (ids : List TaskId) (text : String)
  /-- Every task that matches the filters is to be cleared. -/
  | clearTasksRequested
  | tasksCleared (text : String)
  | actionFailed (reason : String)
  /-- The backend rejected the credential. -/
  | authInvalid
  /-- The view is closed. -/
  | disposed
deriving Repr, Inhabited

/-- What has to be done about a message. -/
inductive Effect where
  | fetchPage (query : ListQuery)
  | batchDelete (ids : List TaskId)
  | clearTasks (kind : Option TaskKind) (status : Option TaskStatus)
  | startPolling
  | stopPolling
  | notify (level : NoticeLevel) (text : String)
deriving DecidableEq, Repr, Inhabited

namespace Effect

def failure (text : String) : Effect := .notify .error text

def success (text : String) : Effect := .notify .success text

end Effect

namespace ListState

/-- What an operator reads after a rejected credential. -/
def rejectionText : String := "Credential rejected; set a valid key and retry"

/-- Asks for the page of the current query. -/
def fetch (s : ListState) : ListState × List Effect :=
  let s := s.setLoading true
  (s, [.fetchPage s.query])

def stopPolling (s : ListState) : ListState × List Effect :=
  if s.polling then ({ s with polling := false }, [.stopPolling]) else (s, [])

/-- Polling is on as long as some task is active. -/
def settlePolling (s : ListState) : ListState × List Effect :=
  if s.hasActiveWork then
    if s.polling then (s, []) else ({ s with polling := true }, [.startPolling])
  else s.stopPolling

/-- Takes in the reply to a fetch, if the view still asks for that query. -/
def receive (s : ListState) (query : ListQuery) (snapshot : Snapshot) :
    ListState × List Effect :=
  if query = s.query then
    let (clamped, s) := s.load snapshot
    if clamped then s.fetch else s.settlePolling
  -- The reply to another query comes too late.
  else (s, [])

def goTo (s : ListState) (page : Nat) : ListState × List Effect :=
  match s.mode with
  | .server => { s with query := { s.query with page } }.fetch
  | .client => (s.setClientPage page, [])

/-- Changes the number of rows on a page. -/
def resize (s : ListState) (size : Nat) : ListState × List Effect :=
  if size = 0 ∨ size = s.cursor.pageSize then (s, [])
  else
    let s := s.setPageSize size
    match s.mode with
    | .server => s.fetch
    | .client => (s.setClientPage 1, [])

/-- Tells the operator about a success and fetches the list. -/
def announce (s : ListState) (text : String) : ListState × List Effect :=
  let (s, effects) := s.fetch
  (s, .success text :: effects)

/-- The next state of a view that is not closed. -/
def react (s : ListState) : Message → ListState × List Effect
  | .refreshRequested => s.fetch
  | .pageLoaded query snapshot => s.receive query snapshot
  | .loadFailed reason =>
    (s.setLoading false, [.failure ("Failed to load tasks: " ++ reason)])
  | .pageChanged delta =>
    match s.cursor.step? delta with
    | some page => s.goTo page
    | none => (s, [])
  | .pageSizeChanged size => s.resize size
  | .statusFilterChanged status => { s with query := { s.query with status } }.toFirstPage.fetch
  | .kindFilterChanged kind => { s with query := { s.query with kind } }.toFirstPage.fetch
  | .selectionToggled id => (s.toggleTask id, [])
  | .selectAllToggled => (s.toggleShown, [])
  | .selectionCleared => (s.clearSelection, [])
  | .batchDeleteRequested =>
    (s, if s.selection.isEmpty then [] else [.batchDelete s.selection.ids])
  | .batchDeleted ids text => (s.forget ids).announce text
  | .clearTasksRequested => (s, [.clearTasks s.query.kind s.query.status])
  | .tasksCleared text => s.clearSelection.announce text
  | .actionFailed reason => (s, [.failure reason])
  | .authInvalid =>
    let (s, effects) := s.rejectCredential.stopPolling
    (s, effects ++ [.failure rejectionText])
  | .disposed =>
    let (s, effects) := s.stopPolling
    ({ s with disposed := true }, effects)

/-- The next state and what has to be done. A closed view stays as it is. -/
def update (s : ListState) (m : Message) : ListState × List Effect :=
  if s.disposed then (s, []) else s.react m

/-- The message makes a sum overflow. -/
def overflows (s : ListState) : Message → Bool
  | .pageChanged delta => !s.disposed && (s.cursor.target? delta).isNone
  | _ => false

/-- The next state and what has to be done, unless the program stops because a sum overflows. -/
def update? (s : ListState) (m : Message) : Option (ListState × List Effect) :=
  if s.overflows m then none else some (s.update m)

end ListState

end TaskDesk
