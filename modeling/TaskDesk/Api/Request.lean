import TaskDesk.Api.Error
import TaskDesk.Json.Value

/-!
# Requests

## Main definitions

* `Method`, `Auth`, `AuthHeader`.
* `ApiRequest`, `ApiRequest.get`, `ApiRequest.post`, `ApiRequest.delete`.
-/

namespace TaskDesk

/-- The method of a request. -/
inductive Method where
  | get
  | post
  | delete
deriving DecidableEq, Repr, Inhabited

namespace Method

/-- The name of a method on the wire. -/
def label : Method → String
  | get => "GET"
  | post => "POST"
  | delete => "DELETE"

end Method

/-- How a request authenticates. -/
inductive Auth where
  | none
  /-- A bearer header with the stored credential of a scope. -/
  | bearer (scope : Scope)
  /-- A key header with the stored credential of a scope. -/
  | key (scope : Scope)
  /-- A bearer header with a token that is not stored. -/
  | explicit (token : String)
deriving DecidableEq, Repr, Inhabited

namespace Auth

/-- The stored credential that a request depends on. -/
def scope? : Auth → Option Scope
  | bearer scope | key scope => some scope
  | none | explicit _ => Option.none

end Auth

/-- The header that a request is sent with. -/
inductive AuthHeader where
  | bearer (token : String)
  | key (key : String)
deriving DecidableEq, Repr, Inhabited

/-- A request. The path begins with a slash and is relative to the base URL. -/
structure ApiRequest where
  method : Method
  path : String
  query : List (String × String) := []
  body : Option Json := none
  auth : Auth := .none
deriving Repr, Inhabited

namespace ApiRequest

def get (path : String) : ApiRequest :=
  { method := .get, path }

def post (path : String) (body : Json) : ApiRequest :=
  { method := .post, path, body := some body }

def delete (path : String) : ApiRequest :=
  { method := .delete, path }

def withAuth (r : ApiRequest) (auth : Auth) : ApiRequest :=
  { r with auth }

end ApiRequest

end TaskDesk
