import TaskDesk.Api.Retry

/-!
# Requests in flight

A request with its retries, cut at the points where it waits, so that other things can happen
in between. Every flight has a purpose, which says what its outcome is for.

## Main definitions

* `Flight`, `FlightStep`, `FlightNext`.
* `World.launch`: resolves the credential and takes off.
* `FlightStep.run`: goes on up to the next wait.
-/

namespace TaskDesk

/-- A request under way: the attempts left after the one that is made now. -/
structure Flight (π : Type) where
  request : ApiRequest
  header : Option AuthHeader
  policy : RetryPolicy
  left : Nat
  purpose : π

/-- Where a flight goes on. -/
inductive FlightStep (π : Type) where
  | send (flight : Flight π)
  | receive (flight : Flight π) (outcome : Except ApiError ApiResponse)

namespace FlightStep

def flight {π : Type} : FlightStep π → Flight π
  | send f => f
  | receive f _ => f

end FlightStep

/-- What comes after a step. -/
inductive FlightNext (π : Type) where
  /-- After a wait, which may be none. -/
  | go (delay : Nat) (step : FlightStep π)
  /-- The flight is over. -/
  | landed (purpose : π) (outcome : Except ApiError ApiResponse)

variable {π κ : Type} [Vault κ]

/-- Takes off with a call, if its credential is there. -/
def World.launch (w : World κ) (p : RetryPolicy) (c : ApiCall) (purpose : π) : FlightNext π :=
  match w.header? c.request.auth with
  | .error e => .landed purpose (.error e)
  | .ok header =>
    let flight : Flight π :=
      { request := c.request, header, policy := p.forCall c, left := p.retries, purpose }
    .go 0 (.send flight)

def FlightStep.run (w : World κ) : FlightStep π → FlightNext π × World κ
  | .send f =>
    let (reply, w) := w.post false f.request f.header
    (.go reply.delay (.receive f reply.content.outcome), w)
  | .receive f outcome =>
    match f.policy.judge f.left outcome with
    | .accept r => (.landed f.purpose (.ok r), w)
    | .fail e => (.landed f.purpose (.error e), w)
    | .reject e => (.landed f.purpose (.error e), w.reject f.request.auth)
    | .again delay => (.go delay (.send { f with left := f.left - 1 }), w)

end TaskDesk
