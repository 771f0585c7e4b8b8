import TaskDesk.Api.Retry
import TaskDesk.Api.Vault
import TaskDesk.Files.Disk
import TaskDesk.Ron.Record

/-!
# Settings of the desk

Settings come from a file, in which every one may be missing, then from the environment, then
from the command line.

## Main definitions

* `Settings`, `Settings.ofText?`, `Settings.load`.
* `Settings.withEnvironment`: what the environment overrides.
* `Settings.level`, `Settings.logDestination`: where to log, and how much.
-/

namespace TaskDesk

/-- How much is logged. -/
inductive LogLevel where
  | off
  | error
  | warn
  | info
  | debug
  | trace
deriving DecidableEq, Repr, Inhabited

namespace LogLevel

def all : List LogLevel :=
  [off, error, warn, info, debug, trace]

def label : LogLevel → String
  | off => "OFF"
  | error => "ERROR"
  | warn => "WARN"
  | info => "INFO"
  | debug => "DEBUG"
  | trace => "TRACE"

/-- The level of a name in any case of its letters. -/
def parse? (name : String) : Option LogLevel :=
  all.find? fun level => Text.lowerAscii level.label = Text.lowerAscii name

end LogLevel

/-- Where is logged to, without saying which file. -/
inductive LogTarget where
  | terminal
  | file
  | both
deriving DecidableEq, Repr, Inhabited

/-- Where is logged to. -/
inductive LogDestination where
  | terminal
  | file (path : String)
  | both (path : String)
deriving DecidableEq, Repr, Inhabited

namespace LogDestination

def file? : LogDestination → Option String
  | terminal => none
  | file path | both path => some path

/-- Makes or empties the log file. Without it, nothing is logged to a file. -/
def begin (l : LogDestination) (d : Disk) : Disk :=
  match l.file? with
  | some path => d.truncate path
  | none => d

end LogDestination

/-- The address that is used unless another one is given. -/
def defaultBaseUrl : String := "http://127.0.0.1:8000"

/-- The settings. Times are in milliseconds. -/
structure Settings where
  baseUrl : String := defaultBaseUrl
  listPoll : Nat := 5000
  taskPoll : Nat := 2000
  videoListPoll : Nat := 2000
  pageSize : Nat := defaultPageSize
  retries : Nat := 2
  connectTimeout : Nat := 10000
  requestTimeout : Nat := 60000
  logTarget : LogTarget := .terminal
  logFile : String := "console.log"
  logLevel : String := "warn"
  credentialsPath : String := "credentials.ron"
deriving DecidableEq, Repr, Inhabited

/-- Why settings could not be loaded. -/
inductive SettingsError where
  | unreadable (path : String)
  | malformed (path : String)
deriving DecidableEq, Repr

namespace SettingsError

def text : SettingsError → String
  | unreadable path => "could not read " ++ path
  | malformed path => "could not parse " ++ path

end SettingsError

namespace Settings

def record : Ron.Record Settings where
  name := "ConsoleConfig"
  fields :=
    [.text "base_url" fun v s => { s with baseUrl := v },
      .unsigned 64 "list_poll_interval_ms" fun v s => { s with listPoll := v },
      .unsigned 64 "task_poll_interval_ms" fun v s => { s with taskPoll := v },
      .unsigned 64 "video_list_poll_interval_ms" fun v s => { s with videoListPoll := v },
      .unsigned 32 "page_size" fun v s => { s with pageSize := v },
      .unsigned 32 "retries" fun v s => { s with retries := v },
      .unsigned 64 "connect_timeout_ms" fun v s => { s with connectTimeout := v },
      .unsigned 64 "request_timeout_ms" fun v s => { s with requestTimeout := v },
      .word "log_destination" [("Terminal", .terminal), ("File", .file), ("Both", .both)]
        fun v s => { s with logTarget := v },
      .text "log_file" fun v s => { s with logFile := v },
      .text "log_level" fun v s => { s with logLevel := v },
      .text "credentials_path" fun v s => { s with credentialsPath := v }]

def ofText? (text : String) : Option Settings :=
  record.read? {} text

def ofFile (d : Disk) (path : String) : Except SettingsError Settings :=
  match (d.read? path).bind Utf8.decode? with
  | none => .error (.unreadable path)
  | some text =>
    match ofText? text with
    | some s => .ok s
    | none => .error (.malformed path)

/-- The file that is read if it is there and no other one is named. -/
def defaultFile : String := "console.ron"

/-- The settings of the named file, which has to be there, else of the default file, else the
default settings. -/
def load (d : Disk) (named : Option String) : Except SettingsError Settings :=
  match named with
  | some path => ofFile d path
  | none => if d.isThere defaultFile then ofFile d defaultFile else .ok {}

/-- A variable of the environment that is not blank. -/
def nonBlank (environment : String → Option String) (name : String) : Option String :=
  (environment name).filter fun value => !Text.isBlank value

/-- The variable with the address of the backend. -/
def baseUrlVariable : String := "TASK_CONSOLE_BASE_URL"

def secretVariable : Scope → String
  | .admin => "TASK_CONSOLE_ADMIN_KEY"
  | .token => "TASK_CONSOLE_TASK_TOKEN"

/-- All variables of the environment that are looked at. -/
def environmentNames : List String :=
  [baseUrlVariable, secretVariable .admin, secretVariable .token]

/-- The settings and the secrets that the environment asks for. -/
def withEnvironment (s : Settings) (environment : String → Option String) : Settings × Slots :=
  ({ s with baseUrl := (nonBlank environment baseUrlVariable).getD s.baseUrl },
    { admin := nonBlank environment (secretVariable .admin)
      token := nonBlank environment (secretVariable .token) })

/-- The interval of the task list; never zero. -/
def listInterval (s : Settings) : Nat :=
  max 1 s.listPoll

/-- The interval of a watched task; never zero. -/
def taskInterval (s : Settings) : Nat :=
  max 1 s.taskPoll

/-- The interval of the list of video tasks; never zero. -/
def videoListInterval (s : Settings) : Nat :=
  max 1 s.videoListPoll

/-- How often a request is sent again. -/
def policy (s : Settings) : RetryPolicy :=
  { retries := s.retries }

/-- How much is logged; warnings if the name is unknown. -/
def level (s : Settings) : LogLevel :=
  (LogLevel.parse? (Text.trim s.logLevel)).getD .warn

def logDestination (s : Settings) : LogDestination :=
  match s.logTarget with
  | .terminal => .terminal
  | .file => .file s.logFile
  | .both => .both s.logFile

end Settings

end TaskDesk
