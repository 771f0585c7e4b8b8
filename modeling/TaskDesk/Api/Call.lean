import TaskDesk.Api.Request
import TaskDesk.Api.Response
import TaskDesk.Generation
import TaskDesk.Task.Wire

/-!
# The calls of the backend

Every call is a request and a way to read its response. Admin calls use the admin key as a
bearer token, cache calls send the same key in a header of its own, generation calls use the
task token.

## Main definitions

* `ApiCall`, `ApiCall.request`, `ApiCall.Answer`, `ApiCall.answer`.
* `Acknowledgement`, `CacheStats`, `OnlineStats`, `CachePage`: answers.
* `TaskRecord.ofFlat`: reads the flat task records of the generation endpoints.
* `streamRequest`: the request that opens a progress stream.
-/

namespace TaskDesk

open Json

variable {σ : Type} [Source σ]

/-- What the backend says after it changed something. -/
structure Acknowledgement where
  message : String := ""
  count : Option Nat := none
deriving DecidableEq, Repr, Inhabited

namespace Acknowledgement

def read? (s : σ) : Option Acknowledgement := do
  let fields ← Fields.of? 2 s
  let message ← fields.withDefault? 0 ["message"] "" Read.string
  let count ← fields.withDefault? 1 ["count"] none (Read.nullable Read.nat64)
  some { message, count }

/-- The backend's words, or others if it said nothing visible. -/
def textOr (a : Acknowledgement) (fallback : String) : String :=
  if Text.isBlank a.message then fallback else a.message

end Acknowledgement

/-- What the media cache holds. -/
structure CacheStats where
  images : Nat := 0
  videos : Nat := 0
  bytes : Nat := 0
deriving DecidableEq, Repr, Inhabited

namespace CacheStats

def read? (s : σ) : Option CacheStats := do
  let fields ← Fields.of? 3 s
  let images ← fields.withDefault? 0 ["image_count"] 0 Read.nat64
  let videos ← fields.withDefault? 1 ["video_count"] 0 Read.nat64
  let bytes ← fields.withDefault? 2 ["total_size"] 0 Read.nat64
  some { images, videos, bytes }

def toJson (c : CacheStats) : Json :=
  Json.object
    [("image_count", .nat c.images), ("video_count", .nat c.videos), ("total_size", .nat c.bytes)]

end CacheStats

/-- What is kept online. -/
structure OnlineStats where
  images : Nat := 0
  videos : Nat := 0
  total : Nat := 0
deriving DecidableEq, Repr, Inhabited

namespace OnlineStats

def read? (s : σ) : Option OnlineStats := do
  let fields ← Fields.of? 3 s
  let images ← fields.withDefault? 0 ["image_count"] 0 Read.nat64
  let videos ← fields.withDefault? 1 ["video_count"] 0 Read.nat64
  let total ← fields.withDefault? 2 ["total_count"] 0 Read.nat64
  some { images, videos, total }

def toJson (c : OnlineStats) : Json :=
  Json.object
    [("image_count", .nat c.images), ("video_count", .nat c.videos), ("total_count", .nat c.total)]

end OnlineStats

/-- A cached file. -/
structure CacheItem where
  name : String
  size : Nat := 0
deriving DecidableEq, Repr, Inhabited

namespace CacheItem

def read? (s : σ) : Option CacheItem := do
  let fields ← Fields.of? 2 s
  let name ← fields.required? 0 ["name"] Read.string
  let size ← fields.withDefault? 1 ["size"] 0 Read.nat64
  some { name, size }

def toJson (c : CacheItem) : Json :=
  Json.object [("name", .str c.name), ("size", .nat c.size)]

end CacheItem

/-- A page of cached files. -/
structure CachePage where
  total : Nat := 0
  items : List CacheItem := []
deriving DecidableEq, Repr, Inhabited

namespace CachePage

def read? (s : σ) : Option CachePage := do
  let fields ← Fields.of? 2 s
  let total ← fields.withDefault? 0 ["total"] 0 Read.nat64
  let items ← fields.withDefault? 1 ["items"] [] (Read.list CacheItem.read?)
  some { total, items }

def toJson (c : CachePage) : Json :=
  Json.object [("total", .nat c.total), ("items", .arr (c.items.map CacheItem.toJson))]

end CachePage

namespace TaskRecord

/-- A member that is there and is not `null`. -/
def present? (key : String) (members : List (String × Json)) : Option Json :=
  match members.lookup key with
  | none | some .null => none
  | some v => some v

/-- The members of a flat record put in the places where a task has them. What the record has there
already is kept. -/
def unflatten (kind : TaskKind) (members : List (String × Json)) : List (String × Json) :=
  -- The kind is the one of the endpoint.
  let members :=
    match members.lookup "type" with
    | some _ => members
    | none => Json.insert "type" (.str kind.label) members
  -- The prompt goes inside the payload, and the links go inside the result.
  let members :=
    match members.lookup "payload", present? "prompt" members with
    | none, some prompt => Json.insert "payload" (Json.object [("prompt", prompt)]) members
    | _, _ => members
  match present? "result" members with
  | some _ => members
  | none =>
    let links := ["video_url", "thumbnail_url"].filterMap fun key =>
      (present? key members).map fun v => (key, v)
    if links.isEmpty then members else Json.insert "result" (Json.object links) members

def ofFlat (kind : TaskKind) : Json → Except ApiError TaskRecord
  | .obj members =>
    match read? (Json.obj (unflatten kind members)) with
    | some t => .ok t
    | none => .error .malformed
  | _ => .error .notAnObject

end TaskRecord

/-- A call of the backend. -/
inductive ApiCall where
  | listTasks (query : ListQuery)
  | taskDetail (id : TaskId)
  | batchDelete (ids : List TaskId)
  | clearTasks (kind : Option TaskKind) (status : Option TaskStatus)
  | submit (request : GenerationRequest)
  | generationTask (kind : TaskKind) (id : TaskId)
  | listVideoTasks (status : Option TaskStatus)
  | cancelVideoTask (id : TaskId)
  | deleteVideoTasks (ids : List TaskId)
  | deleteVideoTasksByStatus (status : TaskStatus)
  | clearVideoTasks
  | verifyToken (token : String)
  | cacheStats
  | cacheList (kind : TaskKind) (page pageSize : Nat)
  | onlineStats
  | deleteCacheItem (kind : TaskKind) (name : String)
  | clearCache (kind : TaskKind)
  | loadOnline
  | clearOnline

def adminTasksPath : String := "/v1/admin/tasks"

def cachePath : String := "/api/v1/admin/cache"

/-- Where generation tasks of a kind are. -/
def tasksPath : TaskKind → String
  | .video => "/v1/video/tasks"
  | .image => "/v1/images/tasks"

/-- The request that opens the progress stream of a video task. -/
def streamRequest (id : TaskId) : ApiRequest :=
  (ApiRequest.get (tasksPath .video ++ "/" ++ id ++ "/stream")).withAuth (.bearer .token)

/-- The new task inside the answer to a submission. -/
def readSubmitted? (s : σ) : Option TaskId := do
  let fields ← Fields.of? 1 s
  fields.required? 0 ["data"] fun data => do
    let inner ← Fields.of? 1 data
    inner.required? 0 ["taskId", "task_id"] Read.string

def readEnvelope? (s : σ) : Option Json := do
  let fields ← Fields.of? 1 s
  fields.required? 0 ["data"] Read.any

/-- The records of a list of video tasks. -/
def readVideoList? (s : σ) : Option (List Json) := do
  let fields ← Fields.of? 1 s
  fields.withDefault? 0 ["tasks", "data"] [] (Read.list Read.any)

namespace ApiCall

def idsBody (ids : List TaskId) : Json :=
  Json.object [("task_ids", .arr (ids.map .str))]

def request : ApiCall → ApiRequest
  | listTasks query =>
    { ApiRequest.get adminTasksPath with query := query.pairs, auth := .bearer .admin }
  | taskDetail id =>
    (ApiRequest.get (adminTasksPath ++ "/" ++ id)).withAuth (.bearer .admin)
  | batchDelete ids =>
    (ApiRequest.post (adminTasksPath ++ "/batch/delete") (idsBody ids)).withAuth (.bearer .admin)
  | clearTasks kind status =>
    let body :=
      (kind.toList.map fun k => ("type", Json.str k.label)) ++
        (status.toList.map fun s => ("status", Json.str s.label))
    (ApiRequest.post (adminTasksPath ++ "/clear") (Json.object body)).withAuth (.bearer .admin)
  | submit r => (ApiRequest.post r.endpoint r.payload).withAuth (.bearer .token)
  | generationTask kind id =>
    (ApiRequest.get (tasksPath kind ++ "/" ++ id)).withAuth (.bearer .token)
  | listVideoTasks status =>
    { ApiRequest.get (tasksPath .video) with
      query := status.toList.map fun s => ("status", s.label)
      auth := .bearer .token }
  | cancelVideoTask id =>
    (ApiRequest.delete (tasksPath .video ++ "/" ++ id)).withAuth (.bearer .token)
  | deleteVideoTasks ids =>
    { ApiRequest.delete (tasksPath .video) with
      body := some (idsBody ids), auth := .bearer .token }
  | deleteVideoTasksByStatus status =>
    (ApiRequest.delete (tasksPath .video ++ "/status/" ++ status.label)).withAuth (.bearer .token)
  | clearVideoTasks => (ApiRequest.delete (tasksPath .video ++ "/all")).withAuth (.bearer .token)
  | verifyToken token => (ApiRequest.get "/v1/models").withAuth (.explicit token)
  | cacheStats => (ApiRequest.get cachePath).withAuth (.key .admin)
  | cacheList kind page pageSize =>
    { ApiRequest.get (cachePath ++ "/list") with
      query :=
        [("type", kind.label), ("page", toString (max 1 page)),
          ("page_size", toString (max 1 pageSize))]
      auth := .key .admin }
  | onlineStats => (ApiRequest.get (cachePath ++ "/online/stats")).withAuth (.key .admin)
  | deleteCacheItem kind name =>
    (ApiRequest.post (cachePath ++ "/item/delete")
      (Json.object [("type", .str kind.label), ("name", .str name)])).withAuth (.key .admin)
  | clearCache kind =>
    (ApiRequest.post (cachePath ++ "/clear")
      (Json.object [("type", .str kind.label)])).withAuth (.key .admin)
  | loadOnline =>
    (ApiRequest.post (cachePath ++ "/online/load/async") (Json.object [])).withAuth (.key .admin)
  | clearOnline =>
    (ApiRequest.post (cachePath ++ "/online/clear") (Json.object [])).withAuth (.key .admin)

/-- A rejected credential is dropped, except by calls that only ask about a credential or a
task. -/
def dropsRejected : ApiCall → Bool
  | generationTask _ _ | verifyToken _ => false
  | _ => true

/-- The fault for which a call must not be sent at all. -/
def fault? : ApiCall → Option RequestFault
  | submit r =>
    match r.validate with
    | .ok () => none
    | .error f => some f
  | _ => none

def Answer : ApiCall → Type
  | listTasks _ => TaskPage
  | taskDetail _ | generationTask _ _ => TaskRecord
  | listVideoTasks _ => List TaskRecord
  | submit _ => TaskId
  | verifyToken _ => Unit
  | cacheStats => CacheStats
  | cacheList _ _ _ => CachePage
  | onlineStats => OnlineStats
  | batchDelete _ | clearTasks _ _ | cancelVideoTask _ | deleteVideoTasks _
  | deleteVideoTasksByStatus _ | clearVideoTasks | deleteCacheItem _ _ | clearCache _
  | loadOnline | clearOnline => Acknowledgement

/-- The record of a task detail, which may be wrapped in an envelope. -/
def detailRecord : Json → Json
  | .obj members =>
    match members.lookup "data" with
    | some (.obj inner) => .obj inner
    | _ => .obj members
  | v => v

def readDetail (r : ApiResponse) : Except ApiError TaskRecord := do
  let body ← r.read Read.any
  match TaskRecord.read? (detailRecord body) with
  | some t => .ok t
  | none => .error .malformed

/-- Reads all records of a list of video tasks; the first one that cannot be read decides. -/
def readVideoTasks (r : ApiResponse) : Except ApiError (List TaskRecord) := do
  let records ← r.read readVideoList?
  records.mapM (TaskRecord.ofFlat .video)

/-- Whether a token was accepted. -/
def readVerdict (r : ApiResponse) : Except ApiError Unit :=
  if r.isSuccess then .ok ()
  else if r.status = 401 ∨ r.status = 403 then .error ⟨.authInvalid, r.errorMessage⟩
  else .error r.failure

def answer : (c : ApiCall) → ApiResponse → Except ApiError c.Answer
  | listTasks _, r => r.read TaskPage.read?
  | taskDetail _, r => readDetail r
  | generationTask kind _, r => do
    let record ← r.read readEnvelope?
    TaskRecord.ofFlat kind record
  | listVideoTasks _, r => readVideoTasks r
  | submit _, r => r.read readSubmitted?
  | verifyToken _, r => readVerdict r
  | cacheStats, r => r.read CacheStats.read?
  | cacheList _ _ _, r => r.read CachePage.read?
  | onlineStats, r => r.read OnlineStats.read?
  | batchDelete _, r | clearTasks _ _, r | cancelVideoTask _, r | deleteVideoTasks _, r
  | deleteVideoTasksByStatus _, r | clearVideoTasks, r | deleteCacheItem _ _, r
  | clearCache _, r | loadOnline, r | clearOnline, r => r.read Acknowledgement.read?

end ApiCall

end TaskDesk
