import TaskDesk.Api.Event
import TaskDesk.Api.Request
import TaskDesk.Api.Response
import TaskDesk.Api.Vault

/-!
# The world of a client

A client sees a clock in milliseconds, a backend that answers its attempts one after the other,
a vault with its credentials and a list of events that it tells the front end.

## Main definitions

* `Reply`: one answer of the backend and how long it takes.
* `Attempt`: what was sent, and when.
* `World`, `World.send`, `World.sendForStream`.

## Design notes

The backend is a list of replies. When the list is used up, every further attempt fails at the
network, so a world answers any number of attempts.
-/

namespace TaskDesk

/-- A piece of a body that comes in pieces. -/
structure Chunk where
  delay : Nat := 0
  item : Except ApiError (List UInt8)

/-- What the backend answers. -/
inductive ReplyContent where
  | response (response : ApiResponse)
  /-- A body in pieces. -/
  | chunks (status : Nat) (chunks : List Chunk)
  /-- No response at all. -/
  | failure (error : ApiError)

/-- An answer and how many milliseconds it takes. -/
structure Reply where
  content : ReplyContent
  delay : Nat := 0

/-- The reply of a backend that has none left. -/
def Reply.exhausted : Reply :=
  ⟨.failure ⟨.network, "script exhausted"⟩, 0⟩

namespace ReplyContent

/-- A plain request gets a response; one in pieces has an empty body for it. -/
def outcome : ReplyContent → Except ApiError ApiResponse
  | response r => .ok r
  | chunks status _ => .ok ⟨status, []⟩
  | failure e => .error e

/-- What is wrong with a response to the opening of a stream. -/
def refusal (r : ApiResponse) : ApiError :=
  if r.status = 401 then ⟨.authInvalid, r.errorMessage⟩ else r.failure

/-- The opening of a stream needs a success; the body then comes in pieces. -/
def streamOutcome : ReplyContent → Except ApiError (List Chunk)
  | response r => if r.isSuccess then .ok [{ item := .ok r.body }] else .error (refusal r)
  | chunks status cs =>
    let r : ApiResponse := ⟨status, []⟩
    if r.isSuccess then .ok cs else .error (refusal r)
  | failure e => .error e

end ReplyContent

/-- Something that was sent. -/
structure Attempt where
  time : Nat
  stream : Bool
  request : ApiRequest
  header : Option AuthHeader
deriving Repr

/-- The clock, the backend, the credentials and the events. -/
structure World (κ : Type) where
  now : Nat := 0
  script : List Reply := []
  attempts : List Attempt := []
  vault : κ
  events : List Event := []

namespace World

variable {κ : Type}

def emit (w : World κ) (e : Event) : World κ :=
  { w with events := w.events ++ [e] }

def wait (w : World κ) (ms : Nat) : World κ :=
  { w with now := w.now + ms }

/-- Sends something; the reply is on its way. -/
def post (w : World κ) (stream : Bool) (request : ApiRequest) (header : Option AuthHeader) :
    Reply × World κ :=
  let attempts := w.attempts ++ [⟨w.now, stream, request, header⟩]
  match w.script with
  | [] => (.exhausted, { w with attempts })
  | r :: rest => (r, { w with attempts, script := rest })

/-- Sends a request and waits for its outcome. -/
def send (w : World κ) (request : ApiRequest) (header : Option AuthHeader) :
    Except ApiError ApiResponse × World κ :=
  let (reply, w) := w.post false request header
  (reply.content.outcome, w.wait reply.delay)

/-- Opens a stream and waits until it is open. -/
def sendForStream (w : World κ) (request : ApiRequest) (header : Option AuthHeader) :
    Except ApiError (List Chunk) × World κ :=
  let (reply, w) := w.post true request header
  (reply.content.streamOutcome, w.wait reply.delay)

variable [Vault κ]

/-- The header of a request. A stored credential has to be there. -/
def header? (w : World κ) : Auth → Except ApiError (Option AuthHeader)
  | .none => .ok none
  | .bearer scope =>
    match Vault.get w.vault scope with
    | some secret => .ok (some (.bearer secret))
    | none => .error (.missingCredential scope)
  | .key scope =>
    match Vault.get w.vault scope with
    | some secret => .ok (some (.key secret))
    | none => .error (.missingCredential scope)
  | .explicit token => .ok (some (.bearer token))

/-- Drops the credential of a rejected request and tells the front end. -/
def reject (w : World κ) (auth : Auth) : World κ :=
  match auth.scope? with
  | some scope => { w with vault := Vault.clear w.vault scope }.emit (.authInvalid scope)
  -- Without a stored credential there is none to drop.
  | none => w

end World

end TaskDesk
