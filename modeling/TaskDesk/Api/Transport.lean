import TaskDesk.Api.Request
import TaskDesk.Settings
import TaskDesk.Url.Basic

/-!
# The way to a backend

Before anything is sent, the base URL, the URL of a request and its header are checked. What
passes the checks can still fail at the connection.

## Main definitions

* `TransportSettings`, `Transport`, `Transport.ofSettings`.
* `Transport.fault?`: why a request cannot be sent.
-/

namespace TaskDesk

/-- Where a backend is and how long to wait for it, in milliseconds. -/
structure TransportSettings where
  baseUrl : String := defaultBaseUrl
  connectTimeout : Nat := 10000
  requestTimeout : Nat := 60000
deriving DecidableEq, Repr, Inhabited

/-- The way to the backend that settings name. -/
def Settings.transport (s : Settings) : TransportSettings :=
  { baseUrl := s.baseUrl, connectTimeout := s.connectTimeout, requestTimeout := s.requestTimeout }

/-- A way to a backend; the base URL has no slash at its end. -/
structure Transport where
  baseUrl : String
  settings : TransportSettings
deriving DecidableEq, Repr

/-- A URL or a header that cannot be used. -/
def ApiError.unusable (what : String) : ApiError :=
  ⟨.invalidUrl, what ++ " cannot be used"⟩

def AuthHeader.value : AuthHeader → String
  | bearer token => "Bearer " ++ token
  | key secret => secret

namespace Transport

def withoutSlashes (text : String) : String :=
  String.ofList ((text.toList.reverse.dropWhile (· = '/')).reverse)

/-- A way to a backend, if its base is a URL. -/
def ofSettings (s : TransportSettings) : Except ApiError Transport :=
  match Url.parse? s.baseUrl with
  | some _ => .ok { baseUrl := withoutSlashes s.baseUrl, settings := s }
  | none => .error (.unusable "the base URL")

/-- Characters that names of hosts may have but that cannot be written to the wire. -/
def unsendable : List Char := "\"\x60\x7b\x7d".toList

/-- Requests can be sent to the host. -/
def isSendable : Host → Bool
  | .domain name => !name.toList.any unsendable.contains
  | _ => true

/-- A URL that requests can be sent to. -/
def isReachable (u : Url) : Bool :=
  (u.scheme = "http" || u.scheme = "https") && u.host.any isSendable

/-- A character that the value of a header may have: no control except the tab. -/
def isHeaderChar (c : Char) : Bool :=
  c = '\t' || (c.toNat ≥ 0x20 && c.toNat ≠ 0x7F)

/-- Why a request cannot be sent, if it cannot. -/
def fault? (t : Transport) (path : String) (header : Option AuthHeader) : Option ApiError :=
  if !(Url.parse? (t.baseUrl ++ path)).any isReachable then some (.unusable "the URL")
  else if !header.all (·.value.toList.all isHeaderChar) then some (.unusable "the header")
  else none

end Transport

end TaskDesk
