import TaskDesk.Api.Error
import TaskDesk.Files.Replace
import TaskDesk.Generation
import TaskDesk.Settings

/-!
# Why a command failed

A failure is a chain of texts, the outermost first: what was being done, then why that failed.

## Main definitions

* `CommandFailure`, `CommandFailure.chain`.
-/

namespace TaskDesk

/-- Why a command failed. -/
inductive CommandFailure where
  /-- A call of the backend failed. -/
  | api (e : ApiError)
  /-- A file could not be replaced, or the credentials could not be read. -/
  | store (e : StoreError)
  | settings (e : SettingsError)
  /-- A generation request cannot be built. -/
  | request (f : RequestFault)
  /-- The system could not read a file. -/
  | unreadable
  /-- What was asked for cannot be done. -/
  | refused (text : String)
  /-- What was being done when something failed. -/
  | within (context : String) (cause : CommandFailure)
deriving Repr

namespace CommandFailure

/-- The texts of a failure. The wording of a failed call and of a failure of the system are
given. -/
def chain (callText : ApiError → String) (systemText : String) : CommandFailure → List String
  | api e => [callText e]
  | store .io => [StoreError.io.text, systemText]
  | store e => [e.text]
  | settings (.unreadable path) => [(SettingsError.unreadable path).text, systemText]
  | settings e => [e.text]
  | request f => [f.message]
  | unreadable => [systemText]
  | refused text => [text]
  | within context cause => context :: chain callText systemText cause

end CommandFailure

end TaskDesk
