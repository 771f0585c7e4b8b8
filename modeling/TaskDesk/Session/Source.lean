import TaskDesk.Api.Call
import TaskDesk.View.Update

/-!
# Where a list comes from

A list shows either the admin tasks, a page at a time, or all video tasks. The source decides
which call an effect becomes and which message its outcome is.

## Main definitions

* `ListSource`, `ViewConfig`.
* `Effect.call?`: the call of an effect.
* `Effect.reply`: the message of a call's outcome.
-/

namespace TaskDesk

/-- Where a list comes from. -/
inductive ListSource where
  /-- Paged by the server. -/
  | adminTasks
  /-- Fetched whole and paged by the client. -/
  | videoTasks
deriving DecidableEq, Repr, Inhabited

namespace ListSource

def mode : ListSource → PagingMode
  | adminTasks => .server
  | videoTasks => .client

/-- How often the list is fetched while work is active, unless something else is asked for. -/
def defaultInterval : ListSource → Nat
  | adminTasks => 5000
  | videoTasks => 2000

def fetchCall (source : ListSource) (query : ListQuery) : ApiCall :=
  match source with
  | adminTasks => .listTasks query
  | videoTasks => .listVideoTasks query.status

def snapshot (source : ListSource) (query : ListQuery) (r : ApiResponse) :
    Except ApiError Snapshot :=
  match source with
  | adminTasks => (ApiCall.answer (.listTasks query) r).map Snapshot.ofPage
  | videoTasks => (ApiCall.answer (.listVideoTasks query.status) r).map Snapshot.full

def deleteCall (source : ListSource) (ids : List TaskId) : ApiCall :=
  match source with
  | adminTasks => .batchDelete ids
  | videoTasks => .deleteVideoTasks ids

/-- The call that clears tasks by the filters. Video endpoints know no filter by kind. -/
def clearCall (source : ListSource) (kind : Option TaskKind) (status : Option TaskStatus) :
    ApiCall :=
  match source, status with
  | adminTasks, status => .clearTasks kind status
  | videoTasks, some status => .deleteVideoTasksByStatus status
  | videoTasks, none => .clearVideoTasks

end ListSource

/-- How a list is opened. -/
structure ViewConfig where
  source : ListSource := .adminTasks
  pageSize : Nat := defaultPageSize
  /-- Milliseconds between fetches while work is active. -/
  interval : Nat := source.defaultInterval
  startPage : Nat := 1
  status : Option TaskStatus := none
  kind : Option TaskKind := none
deriving DecidableEq, Repr, Inhabited

namespace ViewConfig

def query (c : ViewConfig) : ListQuery :=
  { page := c.startPage, size := c.pageSize, status := c.status, kind := c.kind }

def initialState (c : ViewConfig) : ListState :=
  ListState.ofQuery c.source.mode c.query

end ViewConfig

/-- The message of a failed call. A rejected credential is a message of its own. -/
def ApiError.asMessage (e : ApiError) (otherwise : String → Message) : Message :=
  if e.isAuthInvalid then .authInvalid else otherwise e.message

namespace Effect

/-- The call of an effect, if it is one. -/
def call? (source : ListSource) : Effect → Option ApiCall
  | fetchPage query => some (source.fetchCall query)
  | batchDelete ids => some (source.deleteCall ids)
  | clearTasks kind status => some (source.clearCall kind status)
  | startPolling | stopPolling | notify _ _ => none

/-- What the operator reads after a deletion without words of the backend. -/
def deletedText (ids : List TaskId) : String :=
  "Deleted " ++ toString ids.length ++ " task(s)"

/-- The message that the outcome of an effect's call is. -/
def reply (source : ListSource) (e : Effect) (outcome : Except ApiError ApiResponse) : Message :=
  let acknowledged : Except ApiError Acknowledgement :=
    outcome.bind fun r => r.read Acknowledgement.read?
  match e with
  | fetchPage query =>
    match outcome.bind (source.snapshot query) with
    | .ok snapshot => .pageLoaded query snapshot
    | .error e => e.asMessage .loadFailed
  | batchDelete ids =>
    match acknowledged with
    | .ok a => .batchDeleted ids (a.textOr (deletedText ids))
    | .error e => e.asMessage fun text => .actionFailed ("Delete failed: " ++ text)
  | clearTasks _ _ =>
    match acknowledged with
    | .ok a => .tasksCleared (a.textOr "Tasks cleared")
    | .error e => e.asMessage fun text => .actionFailed ("Clear failed: " ++ text)
  | startPolling | stopPolling | notify _ _ => .actionFailed ""

end Effect

end TaskDesk
