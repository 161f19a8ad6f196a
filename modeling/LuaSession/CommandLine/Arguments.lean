import LuaSession.CommandLine.Similarity

/-!
# Arguments

The options of the program and how they are given: long with two dashes, short with one, several
short ones after one dash, a value after a blank, after a sign, or right after a short option. An
option is given once at most. An option that has a value is only complete when something else
follows it, so what is wrong with it is noticed then.

* `State.settle_repeated`: an option that is given again is refused.
-/

namespace LuaSession.CommandLine

/-- The options. -/
inductive Name
  | debug | verbose | project | config | logFile | logLevel | help | version
  deriving DecidableEq, Repr

namespace Name

/-- All options, in the order in which they are listed. -/
def all : List Name := [debug, verbose, project, config, logFile, logLevel, help, version]

/-- The long form. -/
def long : Name → String
  | debug => "debug"
  | verbose => "verbose"
  | project => "project"
  | config => "config"
  | logFile => "log-file"
  | logLevel => "log-level"
  | help => "help"
  | version => "version"

/-- The short form, if there is one. -/
def short? : Name → Option Char
  | debug => some 'd'
  | verbose => some 'v'
  | project => some 'C'
  | help => some 'h'
  | version => some 'V'
  | config | logFile | logLevel => none

/-- What the value is called, if there is one. -/
def placeholder? : Name → Option String
  | project => some "PROJECT"
  | config => some "PATH"
  | logFile => some "DIR"
  | logLevel => some "LEVEL"
  | debug | verbose | help | version => none

/-- Whether the value is a path, which is never empty. -/
def isPath : Name → Bool
  | project | config | logFile => true
  | _ => false

/-- The option as it is shown. -/
def shown (o : Name) : String :=
  "--" ++ o.long ++ ((o.placeholder?.map fun p => " <" ++ p ++ ">").getD "")

/-- The option of a long form. -/
def ofLong? (s : String) : Option Name := all.find? fun o => o.long == s

/-- The option of a short form. -/
def ofShort? (c : Char) : Option Name := all.find? fun o => o.short? == some c

theorem ofLong_long (o : Name) : ofLong? o.long = some o := by cases o <;> decide

end Name

/-- What is wrong with arguments. `used` are the options that were understood. -/
inductive UsageError
  | missingValue (o : Name)
  | repeated (o : Name)
  | unneededValue (o : Name) (value : String) (used : List Name)
  | unknown (arg : String) (similar : Option Name) (used : List Name)
  deriving DecidableEq, Repr

namespace UsageError

/-- How the program is used: with some options, or with any. -/
def usage (used : List Name) : String :=
  "Usage: rlm-sandbox " ++
    (if used.isEmpty then "[OPTIONS]" else " ".intercalate (used.eraseDups.map Name.shown))

/-- What is wrong, in one line. -/
def message : UsageError → String
  | missingValue o => "a value is required for '" ++ o.shown ++ "' but none was supplied"
  | repeated o => "the argument '" ++ o.shown ++ "' cannot be used multiple times"
  | unneededValue o value _ =>
    "unexpected value '" ++ value ++ "' for '" ++ o.shown ++ "' found; no more were expected"
  | unknown arg .. => "unexpected argument '" ++ arg ++ "' found"

/-- What may help: a similar option and how the program is used. -/
def hints : UsageError → List String
  | missingValue _ => []
  | repeated _ => [usage []]
  | unneededValue _ _ used => [usage used]
  | unknown _ similar used =>
    ((similar.map fun o => "  tip: a similar argument exists: '--" ++ o.long ++ "'").toList)
      ++ [usage used]

/-- The report on what is wrong. -/
def report (e : UsageError) : String :=
  "\n\n".intercalate
    (("error: " ++ e.message) :: e.hints ++ ["For more information, try '--help'.\n"])

end UsageError

/-- What is asked of the program. -/
structure Arguments where
  debug : Bool := false
  verbose : Bool := false
  project : Option String := none
  config : Option String := none
  logFile : Option String := none
  logLevel : Option String := none
  deriving DecidableEq, Repr

/-- What arguments come to. -/
inductive Request
  | serve (a : Arguments)
  | help
  | version
  deriving DecidableEq, Repr

/-! ### Reading -/

/-- How far arguments were read: the options with their values in order, and one that may still get
its value. -/
structure State where
  given : List (Name × String) := []
  pending : Option (Name × Option String) := none
  deriving DecidableEq, Repr

/-- Why reading ends early. -/
inductive Early
  | error (e : UsageError)
  | show_ (r : Request)
  deriving DecidableEq, Repr

namespace State

/-- The options that were understood. -/
def used (s : State) : List Name := s.given.map (·.1)

/-- Gives an option its value. A flag has an empty one. The state is also that after an error. -/
def settle (s : State) (o : Name) (value : Option String) : State × Option UsageError :=
  if o.placeholder?.isSome && value.isNone then (s, some (.missingValue o))
  else if s.used.contains o then
    ({ s with given := s.given.filter fun g => g.1 != o }, some (.repeated o))
  else
    let value := value.getD ""
    let s := { s with given := s.given ++ [(o, value)] }
    if o.isPath && value.isEmpty then (s, some (.missingValue o)) else (s, none)

/-- An option is given once. -/
theorem settle_repeated {s : State} {o : Name} {v : String} (h : o ∈ s.used) :
    (s.settle o (some v)).2 = some (.repeated o) := by
  simp [settle, h]

/-- Completes the option that may still get its value. -/
def resolve (s : State) : State × Option UsageError :=
  match s.pending with
  | none => (s, none)
  | some (o, value) => { s with pending := none }.settle o value

/-- The state after an option is complete, unless it is refused. -/
def demand : State × Option UsageError → Except Early State
  | (s, none) => .ok s
  | (_, some e) => .error (.error e)

/-- Gives an option after what came before it is complete. -/
def react (s : State) (o : Name) (value : Option String) : Except Early State := do
  let s ← demand s.resolve
  match o with
  | .help => throw (.show_ .help)
  | .version => throw (.show_ .version)
  | o => demand (s.settle o value)

/-- Stops at an argument that is nothing; what is wrong before it does not matter then. -/
def stop {α : Type} (s : State) (e : State → UsageError) : Except Early α :=
  throw (.error (e s.resolve.1))

/-- An option that has a value: with it, or waiting for it. -/
def begin_ (s : State) (o : Name) (value : Option String) : Except Early State := do
  match value with
  | some v => s.react o (some v)
  | none => return { ← demand s.resolve with pending := some (o, none) }

/-- A long option, with what stands after the sign. -/
def long (s : State) (name : String) (value : Option String) : Except Early State :=
  match Name.ofLong? name, value with
  | some o, value =>
    if o.placeholder?.isSome then s.begin_ o value
    else
      match value with
      | some v => s.stop fun _ => .unneededValue o v (s.used ++ [o])
      | none => s.react o none
  | none, _ =>
    s.stop fun s =>
      let similar := (mostSimilar name (Name.all.map Name.long)).bind Name.ofLong?
      .unknown ("--" ++ name) similar (s.used ++ similar.toList)

/-- Short options after one dash. -/
def shorts (s : State) : List Char → Except Early State
  | [] => return s
  | c :: rest =>
    match Name.ofShort? c with
    | none => s.stop fun _ => .unknown (String.ofList ['-', c]) none []
    | some o =>
      if o.placeholder?.isSome then
        s.begin_ o (match rest with
          | [] => none
          | '=' :: v => some (String.ofList v)
          | v => some (String.ofList v))
      else do shorts (← s.react o none) rest

/-- A word that is no option: the value of the option before it, if that waits for one. -/
def word (s : State) (w : String) (afterDashes : Bool) : Except Early State :=
  match s.pending, afterDashes with
  | some (o, none), false => return { s with pending := some (o, some w) }
  | _, _ => s.stop fun _ => .unknown w none []

/-- Reads arguments. After two dashes no options follow. -/
def readAll (s : State) (afterDashes : Bool) : List String → Except Early State
  | [] => demand s.resolve
  | w :: ws => do
    match w.toList, afterDashes with
    | ['-', '-'], false => readAll s true ws
    | '-' :: '-' :: r, false =>
      let name := r.takeWhile (· != '=')
      let value := (r.dropWhile (· != '=')).tail?
      readAll (← s.long (String.ofList name) (value.map String.ofList)) false ws
    | '-' :: c :: r, false => readAll (← s.shorts (c :: r)) false ws
    | _, _ => readAll (← s.word w afterDashes) afterDashes ws

/-- The arguments of a state. -/
def arguments (s : State) : Arguments where
  debug := s.used.contains .debug
  verbose := s.used.contains .verbose
  project := s.given.lookup .project
  config := s.given.lookup .config
  logFile := s.given.lookup .logFile
  logLevel := s.given.lookup .logLevel

end State

/-- What some arguments ask for. -/
def Request.ofArguments (args : List String) : Except UsageError Request :=
  match State.readAll {} false args with
  | .ok s => .ok (.serve s.arguments)
  | .error (.show_ r) => .ok r
  | .error (.error e) => .error e

/-! ### Help -/

/-- The name of the program and its version. -/
def versionLine : String := "rlm-sandbox 0.1.0\n"

/-- What the program tells about itself. -/
def manual : String :=
  "\n".intercalate
    ["Line-oriented Lua sandbox server for recursive language model hosts",
     "",
     UsageError.usage [],
     "",
     "Options:",
     "  -d, --debug              Enable debug logging",
     "  -v, --verbose            Enable info logging",
     "  -C, --project <PROJECT>  Project root directory (defaults to current directory)",
     "      --config <PATH>      Global config file (defaults to ~/.rlm/config.toml)",
     "      --log-file <DIR>     Log file directory; enables file logging (also: RLM_LOG_FILE)",
     "      --log-level <LEVEL>  File log level (also: RLM_LOG_LEVEL, default: debug)",
     "  -h, --help               Print help",
     "  -V, --version            Print version",
     ""]

end LuaSession.CommandLine
