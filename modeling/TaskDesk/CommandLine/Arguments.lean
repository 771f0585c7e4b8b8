import TaskDesk.Text.Scan

/-!
# Reading command lines

A command has options, positional arguments and subcommands. Words are read from left to right;
a value is checked when the next argument begins, or at the end. An option may be given once on
each level; an option that is known on all levels counts where it was given deepest.

## Main definitions

* `ArgumentSpec`, `CommandSpec`: what a command line may hold.
* `UsageError`: why a command line is refused, or that it asks for help.
* `Matched`: the path of subcommands and the values of the arguments.
* `CommandSpec.read`: reads a command line.

## Design notes

The reader is one recursion over the words. `Reading` is what it knows on one level: the values
that are settled, the argument whose values are still collected, and what the next word may be.
-/

namespace TaskDesk

/-- What a value has to be. -/
inductive ValueKind where
  | text
  /-- A path; the empty text is none. -/
  | path
  /-- An unsigned 32-bit number. -/
  | number
  /-- One of some words. -/
  | word (choices : List String)
deriving DecidableEq, Repr, Inhabited

/-- What an option does. -/
inductive OptionKind where
  | flag
  | help
  | version
  | value (kind : ValueKind)
deriving DecidableEq, Repr, Inhabited

/-- An option. -/
structure OptionSpec where
  name : String
  long : String
  short : Option Char := none
  kind : OptionKind
deriving DecidableEq, Repr, Inhabited

/-- A positional argument; all of them are required. -/
structure PositionalSpec where
  name : String
  kind : ValueKind := .text
  /-- Takes all words that are left. -/
  many : Bool := false
deriving DecidableEq, Repr, Inhabited

/-- A command. One with subcommands needs one of them. -/
inductive CommandSpec where
  | mk (name : String) (options : List OptionSpec) (positionals : List PositionalSpec)
      (subcommands : List CommandSpec)
deriving Repr, Inhabited

namespace CommandSpec

def name : CommandSpec → String
  | mk name _ _ _ => name

def options : CommandSpec → List OptionSpec
  | mk _ options _ _ => options

def positionals : CommandSpec → List PositionalSpec
  | mk _ _ positionals _ => positionals

def subcommands : CommandSpec → List CommandSpec
  | mk _ _ _ subcommands => subcommands

def subcommand? (c : CommandSpec) (name : String) : Option CommandSpec :=
  c.subcommands.find? (·.name = name)

end CommandSpec

/-- Why a command line is refused, or what it asks for instead of a command. -/
inductive UsageError where
  | displayHelp
  | displayVersion
  /-- Nothing was given where something is needed; help is shown. -/
  | helpOnMissing
  | missingSubcommand
  | invalidSubcommand
  | unknownArgument
  | invalidValue
  | valueValidation
  | argumentConflict
  | tooManyValues
  | missingRequiredArgument
deriving DecidableEq, Repr, Inhabited

namespace UsageError

/-- The exit code of the program; being shown something was wanted. -/
def exitCode : UsageError → Nat
  | displayHelp | displayVersion => 0
  | _ => 2

def text : UsageError → String
  | displayHelp | helpOnMissing => "usage: task-console [options] <command> [arguments]"
  | displayVersion => "task-console"
  | missingSubcommand => "error: a command is missing"
  | invalidSubcommand => "error: there is no such command"
  | unknownArgument => "error: there is no such option"
  | invalidValue => "error: a value is missing or is not one of those that are allowed"
  | valueValidation => "error: a value is not of the expected form"
  | argumentConflict => "error: an option was given twice"
  | tooManyValues => "error: there are too many values"
  | missingRequiredArgument => "error: an argument is missing"

end UsageError

/-- The subcommands that were named and the values of the arguments that were given. -/
structure Matched where
  path : List String := []
  values : List (String × List String) := []
deriving DecidableEq, Repr, Inhabited

namespace Matched

def values? (m : Matched) (name : String) : Option (List String) :=
  m.values.lookup name

def value? (m : Matched) (name : String) : Option String :=
  (m.values? name).bind List.head?

def given (m : Matched) (name : String) : Bool :=
  (m.values? name).isSome

end Matched

/-- A decimal number with an optional sign. -/
def signedNumber? (text : String) : Option Int :=
  let digits? (cs : List Char) : Option Nat :=
    if cs.isEmpty ∨ !cs.all Char.isDigit then none
    else some (cs.foldl (fun n c => n * 10 + (c.toNat - 48)) 0)
  match text.toList with
  | '+' :: cs => (digits? cs).map Int.ofNat
  | '-' :: cs => (digits? cs).map fun n => -Int.ofNat n
  | cs => (digits? cs).map Int.ofNat

/-- The unsigned 32-bit number that a text stands for. -/
def number32? (text : String) : Option Nat :=
  match signedNumber? text with
  | some i => if 0 ≤ i ∧ i < Nat.pow 2 32 then some i.toNat else none
  | none => none

def ValueKind.check (kind : ValueKind) (value : String) : Except UsageError Unit :=
  match kind with
  | text => .ok ()
  | path => if value = "" then .error .invalidValue else .ok ()
  | number => if (number32? value).isSome then .ok () else .error .valueValidation
  | word choices => if choices.contains value then .ok () else .error .invalidValue

/-- The argument whose values are still collected. -/
structure OpenArgument where
  name : String
  kind : ValueKind
  /-- Further occurrences add values. -/
  many : Bool
  values : List String
deriving DecidableEq, Repr, Inhabited

/-- What is known while one level of a command line is read. -/
structure Reading where
  settled : List (String × List String) := []
  pending : Option OpenArgument := none
  /-- The next word is the value of the option that is pending. -/
  wantsValue : Bool := false
  /-- The next word cannot name a subcommand. -/
  inPositional : Bool := false
  position : Nat := 0
  /-- A double dash was read: every word that follows is positional. -/
  trailing : Bool := false
deriving Repr, Inhabited

namespace Reading

/-- Adds an occurrence of an argument. A second one is refused unless occurrences add up. -/
def settle (r : Reading) (a : OpenArgument) : Except UsageError Reading := do
  if a.values.isEmpty then throw .invalidValue
  let old := (r.settled.lookup a.name).getD []
  if !old.isEmpty && !a.many then throw .argumentConflict
  a.values.forM a.kind.check
  let others := r.settled.filter fun (n, _) => n ≠ a.name
  pure { r with settled := others ++ [(a.name, old ++ a.values)] }

def resolve (r : Reading) : Except UsageError Reading :=
  match r.pending with
  | none => .ok r
  | some a => { r with pending := none, wantsValue := false }.settle a

def setFlag (r : Reading) (o : OptionSpec) : Except UsageError Reading := do
  let r ← r.resolve
  match o.kind with
  | .help => throw .displayHelp
  | .version => throw .displayVersion
  | _ =>
    let r ← r.settle { name := o.name, kind := .text, many := false, values := ["true"] }
    pure { r with inPositional := false }

/-- Takes an option that wants a value, which may be attached to it. -/
def takeOption (r : Reading) (o : OptionSpec) (kind : ValueKind) (attached : Option String) :
    Except UsageError Reading := do
  let r ← r.resolve
  match attached with
  | some value =>
    let r ← r.settle { name := o.name, kind, many := false, values := [value] }
    pure { r with inPositional := false }
  | none =>
    pure
      { r with
        pending := some { name := o.name, kind, many := false, values := [] }
        wantsValue := true
        inPositional := false }

/-- Takes the word after an option that wants a value. -/
def takeValue (r : Reading) (word : String) : Reading :=
  { r with
    pending := r.pending.map fun a => { a with values := a.values ++ [word] }
    wantsValue := false }

end Reading

namespace CommandSpec

def longOption? (c : CommandSpec) (name : String) : Option OptionSpec :=
  c.options.find? (·.long = name)

def shortOption? (c : CommandSpec) (name : Char) : Option OptionSpec :=
  c.options.find? (·.short = some name)

/-- Takes a word that begins with two dashes. -/
def takeLong (c : CommandSpec) (r : Reading) (word : List Char) : Except UsageError Reading :=
  let (name, value) :=
    match Text.splitAt? ['='] word with
    | some (name, value) => (String.ofList name, some (String.ofList value))
    | none => (String.ofList word, none)
  match c.longOption? name with
  | none => .error .unknownArgument
  | some o =>
    match o.kind, value with
    | .value kind, value => r.takeOption o kind value
    | _, some _ => .error .tooManyValues
    | _, none => r.setFlag o

/-- Takes a word that begins with one dash. -/
def takeShort (c : CommandSpec) (r : Reading) : List Char → Except UsageError Reading
  | [] => .ok r
  | f :: rest =>
    match c.shortOption? f with
    | none => .error .unknownArgument
    | some o =>
      match o.kind with
      -- The rest of the word is the value, if there is any.
      | .value kind =>
        match rest with
        | [] => r.takeOption o kind none
        | '=' :: value => r.takeOption o kind (some (String.ofList value))
        | value => r.takeOption o kind (some (String.ofList value))
      -- After a flag other options may follow.
      | _ =>
        match r.setFlag o with
        | .error e => .error e
        | .ok r => takeShort c r rest

/-- The refusal of a word for which there is no place. -/
def refusal (c : CommandSpec) (r : Reading) (word : String) : UsageError :=
  if r.trailing ∧ ((c.subcommand? word).isSome ∨ (word = "help" ∧ !c.subcommands.isEmpty)) then
    .unknownArgument
  else if !c.subcommands.isEmpty ∧ c.positionals.isEmpty then .invalidSubcommand
  else .unknownArgument

def takePositional (c : CommandSpec) (r : Reading) (word : String) :
    Except UsageError Reading :=
  match c.positionals[r.position]? with
  | none => .error (c.refusal r word)
  | some p =>
    match r.pending with
    | some a =>
      -- One more word for the argument that is being collected.
      if a.name = p.name ∧ p.many then
        .ok { r with pending := some { a with values := a.values ++ [word] } }
      else do
        let r ← r.resolve
        pure (begun r p)
    | none => .ok (begun r p)
where
  /-- Opens a positional argument with its first word. -/
  begun (r : Reading) (p : PositionalSpec) : Reading :=
    { r with
      pending := some { name := p.name, kind := p.kind, many := p.many, values := [word] }
      inPositional := p.many
      position := if p.many then r.position else r.position + 1 }

/-- What `help` followed by names of commands asks for. -/
def helpFor (c : CommandSpec) : List String → UsageError
  | [] => .displayHelp
  | w :: ws =>
    match c.subcommand? w with
    | some sub => helpFor sub ws
    | none =>
      if w = "help" ∧ !c.subcommands.isEmpty ∧ ws.isEmpty then .displayHelp
      else .invalidSubcommand

/-- Ends a level: settles what is pending and checks that nothing is missing. -/
def complete (c : CommandSpec) (r : Reading) (sub : Option Matched) :
    Except UsageError Matched := do
  let r ← r.resolve
  match sub with
  | some m =>
    -- What was given on both levels counts as given on the lower one.
    let inherited := r.settled.filter fun (n, _) => (m.values.lookup n).isNone
    pure { m with values := m.values ++ inherited }
  | none =>
    if !c.subcommands.isEmpty then
      throw (if r.settled.isEmpty then .helpOnMissing else .missingSubcommand)
    if c.positionals.any fun p => (r.settled.lookup p.name).isNone then
      throw .missingRequiredArgument
    pure { values := r.settled }

/-- Reads the words of one level and, once a subcommand is named, of the levels below. -/
def readFrom (c : CommandSpec) (r : Reading) : List String → Except UsageError Matched
  | [] => c.complete r none
  | w :: ws =>
    -- A word that can only be a value is no name of a command.
    let sub := if r.trailing ∨ r.wantsValue ∨ r.inPositional then none else c.subcommand? w
    match sub with
    | some s => do
      let m ← readFrom s {} ws
      c.complete r (some { m with path := w :: m.path })
    | none =>
      let next : Except UsageError Reading :=
        if r.trailing then c.takePositional r w
        else if w = "help" ∧ !c.subcommands.isEmpty ∧ !r.wantsValue then .error (c.helpFor ws)
        else
          match w.toList with
          | ['-', '-'] => .ok { r with trailing := true }
          | '-' :: '-' :: rest => c.takeLong r rest
          | ['-'] => if r.wantsValue then .ok (r.takeValue w) else c.takePositional r w
          | '-' :: rest => c.takeShort r rest
          | _ => if r.wantsValue then .ok (r.takeValue w) else c.takePositional r w
      match next with
      | .error e => .error e
      | .ok r => readFrom c r ws

def read (c : CommandSpec) (words : List String) : Except UsageError Matched :=
  c.readFrom {} words

end CommandSpec

end TaskDesk
