/-!
# Credentials scopes and failures of backend calls

## Main definitions

* `Scope`: which stored credential a request needs.
* `FailureKind`, `ApiError`: why a call failed.
-/

namespace TaskDesk

/-- Which stored credential a request needs. -/
inductive Scope where
  /-- The key for the admin and cache calls. -/
  | admin
  /-- The token for the generation calls. -/
  | token
deriving DecidableEq, Repr, Inhabited

namespace Scope

def label : Scope → String
  | admin => "admin key"
  | token => "task token"

end Scope

/-- Kinds of failures. -/
inductive FailureKind where
  | authInvalid
  | httpStatus (code : Nat)
  | network
  | timeout
  | invalidUrl
  | decode
  | validation
  | unsupported
deriving DecidableEq, Repr, Inhabited

namespace FailureKind

def text : FailureKind → String
  | authInvalid => "credential rejected"
  | httpStatus code => "http status " ++ toString code
  | network => "network error"
  | timeout => "timeout"
  | invalidUrl => "invalid url"
  | decode => "malformed response"
  | validation => "invalid request"
  | unsupported => "unsupported"

end FailureKind

/-- A failure with its explanation. -/
structure ApiError where
  kind : FailureKind
  message : String
deriving DecidableEq, Repr, Inhabited

namespace ApiError

/-- The kind and the explanation in one line. -/
def text (e : ApiError) : String :=
  e.kind.text ++ ": " ++ e.message

/-- A failure of the connection, worth another attempt. -/
def isTransient (e : ApiError) : Bool :=
  e.kind = .network || e.kind = .timeout

/-- The backend rejected the credential. -/
def isAuthInvalid (e : ApiError) : Bool :=
  e.kind = .authInvalid

/-- A body that is not what was expected. -/
def malformed : ApiError := ⟨.decode, "the body is not of the expected form"⟩

/-- A record that is no object at all. -/
def notAnObject : ApiError := ⟨.decode, "task record is not an object"⟩

/-- No credential of a scope is at hand. -/
def missingCredential (scope : Scope) : ApiError :=
  ⟨.validation, "no " ++ scope.label ++ " configured"⟩

end ApiError

end TaskDesk
