import TaskDesk.Api.Error
import TaskDesk.Json.Printer
import TaskDesk.Json.Record

/-!
# Responses

A response that is no success is explained by the backend itself if it says anything: by the
member `detail` of its body, else by `message`, else by its status.

## Main definitions

* `ApiResponse`, `ApiResponse.isSuccess`, `ApiResponse.errorMessage`.
* `ApiResponse.read`: the body of a success, or the failure that the response is.
* `statusLine`: a status with its standard reason.
-/

namespace TaskDesk

def reason? : Nat → Option String
  | 100 => some "Continue"
  | 101 => some "Switching Protocols"
  | 102 => some "Processing"
  | 103 => some "Early Hints"
  | 200 => some "OK"
  | 201 => some "Created"
  | 202 => some "Accepted"
  | 203 => some "Non Authoritative Information"
  | 204 => some "No Content"
  | 205 => some "Reset Content"
  | 206 => some "Partial Content"
  | 207 => some "Multi-Status"
  | 208 => some "Already Reported"
  | 226 => some "IM Used"
  | 300 => some "Multiple Choices"
  | 301 => some "Moved Permanently"
  | 302 => some "Found"
  | 303 => some "See Other"
  | 304 => some "Not Modified"
  | 305 => some "Use Proxy"
  | 307 => some "Temporary Redirect"
  | 308 => some "Permanent Redirect"
  | 400 => some "Bad Request"
  | 401 => some "Unauthorized"
  | 402 => some "Payment Required"
  | 403 => some "Forbidden"
  | 404 => some "Not Found"
  | 405 => some "Method Not Allowed"
  | 406 => some "Not Acceptable"
  | 407 => some "Proxy Authentication Required"
  | 408 => some "Request Timeout"
  | 409 => some "Conflict"
  | 410 => some "Gone"
  | 411 => some "Length Required"
  | 412 => some "Precondition Failed"
  | 413 => some "Payload Too Large"
  | 414 => some "URI Too Long"
  | 415 => some "Unsupported Media Type"
  | 416 => some "Range Not Satisfiable"
  | 417 => some "Expectation Failed"
  | 418 => some "I'm a teapot"
  | 421 => some "Misdirected Request"
  | 422 => some "Unprocessable Entity"
  | 423 => some "Locked"
  | 424 => some "Failed Dependency"
  | 425 => some "Too Early"
  | 426 => some "Upgrade Required"
  | 428 => some "Precondition Required"
  | 429 => some "Too Many Requests"
  | 431 => some "Request Header Fields Too Large"
  | 451 => some "Unavailable For Legal Reasons"
  | 500 => some "Internal Server Error"
  | 501 => some "Not Implemented"
  | 502 => some "Bad Gateway"
  | 503 => some "Service Unavailable"
  | 504 => some "Gateway Timeout"
  | 505 => some "HTTP Version Not Supported"
  | 506 => some "Variant Also Negotiates"
  | 507 => some "Insufficient Storage"
  | 508 => some "Loop Detected"
  | 510 => some "Not Extended"
  | 511 => some "Network Authentication Required"
  | _ => none

def statusLine (status : Nat) : String :=
  if 100 ≤ status ∧ status ≤ 999 then
    toString status ++ " " ++ (reason? status).getD "<unknown status code>"
  else "HTTP " ++ toString status

/-- A response. -/
structure ApiResponse where
  status : Nat
  body : List UInt8 := []
deriving DecidableEq, Repr, Inhabited

namespace ApiResponse

/-- The request did what it was meant to. -/
def isSuccess (r : ApiResponse) : Bool :=
  200 ≤ r.status && r.status < 300

/-- What a member of a body says: a text as it is, another value as compact JSON; the empty
text counts as a value that is quoted. -/
def explanation? : Option Json → Option String
  | none | some .null => none
  | some (.str s) => some (if s = "" then (Json.str s).toText else s)
  | some v => some v.toText

/-- Why the request failed, in the backend's own words. -/
def errorMessage (r : ApiResponse) : String :=
  let body := Json.parse? r.body
  let said (key : String) : Option String := explanation? (body.bind (·.member? key))
  (said "detail" <|> said "message").getD (statusLine r.status)

/-- The failure that a response without success is. -/
def failure (r : ApiResponse) : ApiError :=
  ⟨.httpStatus r.status, r.errorMessage⟩

def body? {α : Type} (read : Json.Nested → Option α) (r : ApiResponse) : Except ApiError α :=
  match Json.readText? read r.body with
  | some a => .ok a
  | none => .error .malformed

/-- The body of a success; any other response is a failure. -/
def read {α : Type} (read : Json.Nested → Option α) (r : ApiResponse) : Except ApiError α :=
  if r.isSuccess then r.body? read else .error r.failure

end ApiResponse

end TaskDesk
