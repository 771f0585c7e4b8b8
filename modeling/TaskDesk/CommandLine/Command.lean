import TaskDesk.CommandLine.Arguments
import TaskDesk.Task.Status
import TaskDesk.Task.Kind

/-!
# The commands of the desk

What an operator can ask for on the command line, and the command line that asks for it.

## Main definitions

* `Command`: what to do; `Command.words` names it.
* `Invocation`: a command with the options that every command takes.
* `Invocation.read`: the invocation that a command line asks for.
* `statusFilter?`: the status that a filter text asks for.

## Design notes

`CommandSpec.desk` says which command lines are accepted, and `Command.ofMatched?` what an accepted
one means. Names of arguments tie the two together.
-/

namespace TaskDesk

/-- The status that a filter text asks for; none for a blank text and for `all`. -/
def statusFilter? (text : Option String) : Option TaskStatus :=
  match text.map Text.trim with
  | none => none
  | some word =>
    if word = "" ∨ Text.lowerAscii word = "all" then none else some (TaskStatus.parse word)

/-- Which part of the task list to show. -/
structure ListArguments where
  page : Nat := 1
  size : Option Nat := none
  status : Option String := none
  kind : Option TaskKind := none
deriving DecidableEq, Repr, Inhabited

/-- Which part of the list of video tasks to show. -/
structure VideoListArguments where
  page : Nat := 1
  pageSize : Option Nat := none
  status : Option String := none
deriving DecidableEq, Repr, Inhabited

/-- Which video to generate, and how to follow its progress. -/
structure VideoArguments where
  prompt : String
  ratio : String := "3:2"
  resolution : String := "720p"
  duration : Nat := 6
  preset : String := "normal"
  model : Option String := none
  image : Option String := none
  stream : Bool := false
deriving DecidableEq, Repr, Inhabited

/-- Which image to generate, and where to save it. -/
structure ImageArguments where
  prompt : String
  ratio : String := "1:1"
  model : Option String := none
  save : Option String := none
deriving DecidableEq, Repr, Inhabited

/-- The two secrets that can be forgotten. -/
inductive SecretName where
  | admin
  | token
deriving DecidableEq, Repr, Inhabited

/-- What to do. -/
inductive Command where
  | listTasks (list : ListArguments)
  | watchTasks (list : ListArguments)
  | showTask (id : String) (save : Option String)
  | deleteTasks (ids : List String)
  | clearTasks (kind : Option TaskKind) (status : Option String)
  | listVideos (list : VideoListArguments)
  | watchVideos (list : VideoListArguments)
  | cancelVideo (id : String)
  | deleteVideos (ids : List String)
  | clearVideos (status : Option String)
  | streamVideo (id : String)
  | submitVideo (video : VideoArguments)
  | submitImage (image : ImageArguments)
  | setAdminKey (key : String)
  | verifyToken (token : String)
  | tokenStatus
  | forgetSecret (secret : SecretName)
  | cacheStats
  | listCache (kind : TaskKind) (page pageSize : Nat)
  | deleteCached (kind : TaskKind) (name : String)
  | clearCache (kind : TaskKind)
  | onlineStats
  | loadOnline
  | clearOnline
deriving DecidableEq, Repr, Inhabited

/-- A command with the options that every command takes. -/
structure Invocation where
  config : Option String := none
  baseUrl : Option String := none
  verbose : Bool := false
  command : Command
deriving DecidableEq, Repr

namespace CommandSpec

/-- The options that are known on every level. -/
def sharedOptions : List OptionSpec :=
  [{ name := "config", long := "config", short := some 'c', kind := .value .path },
    { name := "base_url", long := "base-url", kind := .value .text },
    { name := "verbose", long := "verbose", short := some 'v', kind := .flag },
    { name := "help", long := "help", short := some 'h', kind := .help }]

/-- An option with a value; `long` is its name with dashes. -/
def option (name long : String) (kind : ValueKind) : OptionSpec :=
  { name, long, kind := .value kind }

def kindWords : ValueKind :=
  .word ["image", "video"]

/-- A command that does something. -/
def leaf (name : String) (positionals : List PositionalSpec) (options : List OptionSpec) :
    CommandSpec :=
  .mk name (options ++ sharedOptions) positionals []

/-- A command that only holds others. -/
def group (name : String) (subcommands : List CommandSpec) : CommandSpec :=
  .mk name sharedOptions [] subcommands

/-- The part of the task list to show. -/
def listOptions : List OptionSpec :=
  [option "page" "page" .number, option "size" "size" .number, option "status" "status" .text,
    option "type" "type" kindWords]

/-- The part of the list of video tasks to show. -/
def videoListOptions : List OptionSpec :=
  [option "page" "page" .number, option "page_size" "page-size" .number,
    option "status" "status" .text]

def tasks : CommandSpec :=
  group "tasks"
    [leaf "list" [] listOptions,
      leaf "watch" [] listOptions,
      leaf "show" [{ name := "id" }] [option "save" "save" .path],
      leaf "delete" [{ name := "ids", many := true }] [],
      leaf "clear" [] [option "type" "type" kindWords, option "status" "status" .text]]

def videos : CommandSpec :=
  group "videos"
    [leaf "list" [] videoListOptions,
      leaf "watch" [] videoListOptions,
      leaf "cancel" [{ name := "id" }] [],
      leaf "delete" [{ name := "ids", many := true }] [],
      leaf "clear" [] [option "status" "status" .text],
      leaf "stream" [{ name := "id" }] []]

def submit : CommandSpec :=
  group "submit"
    [leaf "video" [{ name := "prompt" }]
        [option "ratio" "ratio" .text, option "resolution" "resolution" .text,
          option "duration" "duration" .number, option "preset" "preset" .text,
          option "model" "model" .text, option "image" "image" .path,
          { name := "stream", long := "stream", kind := .flag }],
      leaf "image" [{ name := "prompt" }]
        [option "ratio" "ratio" .text, option "model" "model" .text,
          option "save" "save" .path]]

def token : CommandSpec :=
  group "token"
    [leaf "set-admin" [{ name := "key" }] [],
      leaf "verify" [{ name := "token" }] [],
      leaf "status" [] [],
      leaf "forget" [{ name := "which", kind := .word ["admin", "token"] }] []]

def cache : CommandSpec :=
  group "cache"
    [leaf "stats" [] [],
      leaf "list" [{ name := "kind", kind := kindWords }]
        [option "page" "page" .number, option "page_size" "page-size" .number],
      leaf "delete" [{ name := "kind", kind := kindWords }, { name := "name" }] [],
      leaf "clear" [{ name := "kind", kind := kindWords }] [],
      leaf "online-stats" [] [],
      leaf "online-load" [] [],
      leaf "online-clear" [] []]

/-- The whole command line of the desk. -/
def desk : CommandSpec :=
  .mk "task-console"
    (sharedOptions ++
      [{ name := "version", long := "version", short := some 'V', kind := .version }])
    [] [tasks, videos, submit, token, cache]

end CommandSpec

namespace Matched

def number? (m : Matched) (name : String) : Option Nat :=
  (m.value? name).bind number32?

def kind? (m : Matched) (name : String) : Option TaskKind :=
  (m.value? name).bind TaskKind.ofLabel?

def list (m : Matched) : ListArguments :=
  { page := (m.number? "page").getD 1
    size := m.number? "size"
    status := m.value? "status"
    kind := m.kind? "type" }

/-- The arguments of a list of video tasks. -/
def videoList (m : Matched) : VideoListArguments :=
  { page := (m.number? "page").getD 1
    pageSize := m.number? "page_size"
    status := m.value? "status" }

def video (m : Matched) (prompt : String) : VideoArguments :=
  { prompt
    ratio := (m.value? "ratio").getD "3:2"
    resolution := (m.value? "resolution").getD "720p"
    duration := (m.number? "duration").getD 6
    preset := (m.value? "preset").getD "normal"
    model := m.value? "model"
    image := m.value? "image"
    stream := m.given "stream" }

def image (m : Matched) (prompt : String) : ImageArguments :=
  { prompt
    ratio := (m.value? "ratio").getD "1:1"
    model := m.value? "model"
    save := m.value? "save" }

end Matched

namespace Command

def words : Command → List String
  | listTasks _ => ["tasks", "list"]
  | watchTasks _ => ["tasks", "watch"]
  | showTask _ _ => ["tasks", "show"]
  | deleteTasks _ => ["tasks", "delete"]
  | clearTasks _ _ => ["tasks", "clear"]
  | listVideos _ => ["videos", "list"]
  | watchVideos _ => ["videos", "watch"]
  | cancelVideo _ => ["videos", "cancel"]
  | deleteVideos _ => ["videos", "delete"]
  | clearVideos _ => ["videos", "clear"]
  | streamVideo _ => ["videos", "stream"]
  | submitVideo _ => ["submit", "video"]
  | submitImage _ => ["submit", "image"]
  | setAdminKey _ => ["token", "set-admin"]
  | verifyToken _ => ["token", "verify"]
  | tokenStatus => ["token", "status"]
  | forgetSecret _ => ["token", "forget"]
  | cacheStats => ["cache", "stats"]
  | listCache _ _ _ => ["cache", "list"]
  | deleteCached _ _ => ["cache", "delete"]
  | clearCache _ => ["cache", "clear"]
  | onlineStats => ["cache", "online-stats"]
  | loadOnline => ["cache", "online-load"]
  | clearOnline => ["cache", "online-clear"]

/-- The command that an accepted command line means. -/
def ofMatched? (m : Matched) : Option Command :=
  match m.path with
  | ["tasks", "list"] => some (.listTasks m.list)
  | ["tasks", "watch"] => some (.watchTasks m.list)
  | ["tasks", "show"] => (m.value? "id").map fun id => .showTask id (m.value? "save")
  | ["tasks", "delete"] => (m.values? "ids").map .deleteTasks
  | ["tasks", "clear"] => some (.clearTasks (m.kind? "type") (m.value? "status"))
  | ["videos", "list"] => some (.listVideos m.videoList)
  | ["videos", "watch"] => some (.watchVideos m.videoList)
  | ["videos", "cancel"] => (m.value? "id").map .cancelVideo
  | ["videos", "delete"] => (m.values? "ids").map .deleteVideos
  | ["videos", "clear"] => some (.clearVideos (m.value? "status"))
  | ["videos", "stream"] => (m.value? "id").map .streamVideo
  | ["submit", "video"] => (m.value? "prompt").map fun prompt => .submitVideo (m.video prompt)
  | ["submit", "image"] => (m.value? "prompt").map fun prompt => .submitImage (m.image prompt)
  | ["token", "set-admin"] => (m.value? "key").map .setAdminKey
  | ["token", "verify"] => (m.value? "token").map .verifyToken
  | ["token", "status"] => some .tokenStatus
  | ["token", "forget"] =>
    (m.value? "which").map fun word => .forgetSecret (if word = "admin" then .admin else .token)
  | ["cache", "stats"] => some .cacheStats
  | ["cache", "list"] =>
    (m.kind? "kind").map fun kind =>
      .listCache kind ((m.number? "page").getD 1) ((m.number? "page_size").getD 20)
  | ["cache", "delete"] => do
    let kind ← m.kind? "kind"
    let name ← m.value? "name"
    pure (.deleteCached kind name)
  | ["cache", "clear"] => (m.kind? "kind").map .clearCache
  | ["cache", "online-stats"] => some .onlineStats
  | ["cache", "online-load"] => some .loadOnline
  | ["cache", "online-clear"] => some .clearOnline
  | _ => none

end Command

namespace Invocation

/-- The invocation that a command line asks for. -/
def read (words : List String) : Except UsageError Invocation := do
  let m ← CommandSpec.desk.read words
  match Command.ofMatched? m with
  | some command =>
    pure
      { config := m.value? "config"
        baseUrl := m.value? "base_url"
        verbose := m.given "verbose"
        command }
  | none => throw .missingSubcommand

end Invocation

end TaskDesk
