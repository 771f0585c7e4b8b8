import TaskDesk.Api.Call
import TaskDesk.Api.World

/-!
# Retries

A request that fails for a passing reason is sent again after a growing delay, at most as often
as the policy says. A rejected credential ends the call at once.

## Main definitions

* `RetryPolicy`, `RetryPolicy.delay`, `RetryPolicy.judge`.
* `World.request`: a request with its retries.
* `World.call`: a call of the backend.
* `World.openStream`: opens a progress stream, without retries.
-/

namespace TaskDesk

def retryableStatuses : List Nat := [429, 500, 502, 503, 504]

def isRetryableStatus (status : Nat) : Bool :=
  retryableStatuses.contains status

/-- How often and how late a request is sent again. Delays are whole milliseconds, however many;
this leaves out finer ones, and that a clock can only tell so much time. -/
structure RetryPolicy where
  /-- Attempts after the first one. -/
  retries : Nat := 2
  /-- A response with status 401 drops the credential and fails. -/
  dropRejected : Bool := true
  baseDelay : Nat := 300
  maxDelay : Nat := 2000
deriving DecidableEq, Repr, Inhabited

/-- What to do about the outcome of an attempt. -/
inductive Verdict where
  /-- The call ends with this response. -/
  | accept (response : ApiResponse)
  /-- The call ends with this failure. -/
  | fail (error : ApiError)
  /-- The call ends with this failure, and the credential is dropped. -/
  | reject (error : ApiError)
  /-- Another attempt after a delay. -/
  | again (delay : Nat)

namespace RetryPolicy

/-- The factor of the delay after an attempt, counted from zero: doubled each time, up to the
greatest number of 32 bits. -/
def factor (attempt : Nat) : UInt32 :=
  if attempt < 32 then UInt32.ofNat (1 <<< attempt) else UInt32.ofNat (UInt32.size - 1)

/-- The longest delay that can be told, in milliseconds: its seconds are counted with 64 bits. -/
def longestDelay : Nat := UInt64.size * 1000 - 1

/-- A multiple of a delay, if it can be told. -/
def multiple? (delay : Nat) (factor : UInt32) : Option Nat :=
  let product := delay * factor.toNat
  if product ≤ longestDelay then some product else none

/-- The delay after an attempt, at most the greatest one. -/
def delay (p : RetryPolicy) (attempt : Nat) : Nat :=
  min ((multiple? p.baseDelay (factor attempt)).getD p.maxDelay) p.maxDelay

/-- What to do about an outcome when `left` attempts are left. -/
def judge (p : RetryPolicy) (left : Nat) : Except ApiError ApiResponse → Verdict
  | .ok r =>
    if r.status = 401 then
      if p.dropRejected then .reject ⟨.authInvalid, r.errorMessage⟩ else .accept r
    else if isRetryableStatus r.status ∧ 0 < left then .again (p.delay (p.retries - left))
    -- Whatever else the status says is for the reader of the response.
    else .accept r
  | .error e =>
    if e.isTransient ∧ 0 < left then .again (p.delay (p.retries - left)) else .fail e

/-- The policy for a call. -/
def forCall (p : RetryPolicy) (c : ApiCall) : RetryPolicy :=
  { p with dropRejected := p.dropRejected && c.dropsRejected }

end RetryPolicy

namespace World

variable {κ : Type} [Vault κ]

/-- Sends a request, and again as long as that is worth it and attempts are left. -/
def exchange (p : RetryPolicy) (request : ApiRequest) (header : Option AuthHeader) :
    (left : Nat) → World κ → Except ApiError ApiResponse × World κ
  | 0, w =>
    let (outcome, w) := w.send request header
    match p.judge 0 outcome with
    | .reject e => (.error e, w.reject request.auth)
    -- There is no other attempt, so the outcome stays what it is.
    | _ => (outcome, w)
  | left + 1, w =>
    let (outcome, w) := w.send request header
    match p.judge (left + 1) outcome with
    | .accept r => (.ok r, w)
    | .fail e => (.error e, w)
    | .reject e => (.error e, w.reject request.auth)
    | .again delay => exchange p request header left (w.wait delay)

/-- A request with its credential and its retries. -/
def request (w : World κ) (p : RetryPolicy) (request : ApiRequest) :
    Except ApiError ApiResponse × World κ :=
  match w.header? request.auth with
  | .error e => (.error e, w)
  | .ok header => exchange p request header p.retries w

/-- A call of the backend. A request with a fault is not sent. -/
def call (w : World κ) (p : RetryPolicy) (c : ApiCall) : Except ApiError c.Answer × World κ :=
  match c.fault? with
  | some fault => (.error ⟨.validation, fault.message⟩, w)
  | none =>
    let (outcome, w) := w.request (p.forCall c) c.request
    (outcome.bind c.answer, w)

/-- Opens a stream. That is tried once; a rejected credential is dropped. -/
def openStream (w : World κ) (request : ApiRequest) : Except ApiError (List Chunk) × World κ :=
  match w.header? request.auth with
  | .error e => (.error e, w)
  | .ok header =>
    let (outcome, w) := w.sendForStream request header
    match outcome with
    | .error e => (.error e, if e.isAuthInvalid then w.reject request.auth else w)
    | .ok chunks => (.ok chunks, w)

end World

end TaskDesk
