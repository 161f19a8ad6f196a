import LuaSession.CommandLine.Arguments
import LuaSession.Config.Load
import LuaSession.Log.Filter
import LuaSession.Lua.Library.System
import LuaSession.Service.Server

/-!
# The program

The program reads its arguments, loads the settings, opens the log file if one is asked for, and
serves lines until its input ends. What it needs from outside is a `Host`. A log file that cannot be
opened is only worth a warning.

* `Arguments.apply_default`: without arguments the settings stay as they are.
-/

namespace LuaSession.CommandLine

open LuaSession.Config LuaSession.Log LuaSession.Lua LuaSession.Service LuaSession.Stream

/-- What the program needs from outside. `openLog` makes a directory and a file in it, or says why
it cannot; `append` adds to a file; `complain` writes to the stream for complaints. -/
structure Host (m : Type → Type) where
  sources : Sources m
  surroundings : Surroundings m
  readLine : m (Except TransportError (Option String))
  writeLine : String → m (Except TransportError Unit)
  workingDirectory : m String
  openLog : (directory file : String) → m (Except String Unit)
  append : (file text : String) → m Unit
  complain : String → m Unit

/-- How the program ends: its code, and what it still writes. -/
structure Ending where
  code : Nat
  output : String := ""
  complaint : String := ""
  deriving DecidableEq, Repr

/-- Settings with what arguments say. A log directory asks for a log file. -/
def Arguments.apply (a : Arguments) (s : Settings) : Settings :=
  { s with
    debug := s.debug || a.debug
    logToFile := s.logToFile || a.logFile.isSome
    logDirectory := a.logFile.or s.logDirectory
    logLevel := a.logLevel.getD s.logLevel }

theorem Arguments.apply_default (s : Settings) : Arguments.apply {} s = s := by
  simp [Arguments.apply]

/-- Which settings arguments ask for. -/
def Arguments.loader (a : Arguments) (workingDirectory : String) : Loader where
  globalPath := a.config
  projectRoot := some (a.project.getD workingDirectory)

/-- The settings of all layers: the files, the environment and the arguments. -/
def Arguments.resolve {m : Type → Type} [Monad m] (a : Arguments) (workingDirectory : String)
    (src : Sources m) : ExceptT ConfigError m Settings := do
  return a.apply (← (a.loader workingDirectory).load src)

/-! ### The log -/

/-- The line of an event. -/
def eventLine (now : Int) (withTarget : Bool) (e : Log.Event) : String :=
  let moment := Moment.ofSeconds now
  let time := moment.part 'F' ++ ['T'] ++ moment.part 'T' ++ ['Z']
  let level := List.replicate (5 - e.level.name.length) ' ' ++ e.level.name.toList
  String.ofList (time ++ [' '] ++ level) ++ " " ++
    (if withTarget then e.target ++ ": " else "") ++ e.text ++ "\n"

/-- Where events go: through one filter to the complaints, through another to a file. -/
structure Journal where
  complaints : Filter
  file : Option (String × Filter) := none
  deriving DecidableEq, Repr

variable {m : Type → Type} [Monad m]

/-- Keeps an event. -/
def Journal.log (j : Journal) (h : Host m) (e : Log.Event) : m Unit := do
  let now ← h.surroundings.now
  if j.complaints.passes e then h.complain (eventLine now false e)
  match j.file with
  | some (path, filter) => if filter.passes e then h.append path (eventLine now true e)
  | none => pure ()

/-- The ports of the program. -/
def Journal.ports (j : Journal) (h : Host m) : Ports m where
  readLine := h.readLine
  writeLine := h.writeLine
  log := j.log h

/-- The filter for complaints: as verbose as asked for, or else as the environment says. -/
def complaintFilter (h : Host m) (debug verbose : Bool) : m Filter := do
  if debug then return .read "debug"
  else if verbose then return .read "info"
  else
    let said := (← h.sources.variable_ "RUST_LOG").bind fun b => (Text.Utf8.decode? b).toOption
    return (said.bind Filter.read?).getD (.read "warn")

/-- The file of the log in its directory. -/
def logFileName : String := "rlm-sandbox.log"

/-- Opens the log. -/
def Journal.begin_ (h : Host m) (a : Arguments) (s : Settings) (directory : String) :
    m Journal := do
  let complaints ← complaintFilter h s.debug a.verbose
  if !s.logToFile then return { complaints }
  let path := Storage.join directory logFileName
  match ← h.openLog directory path with
  | .ok () => return { complaints, file := some (path, .read s.logDirectives) }
  | .error warning =>
    h.complain ("Warning: " ++ warning ++ "\n")
    return { complaints }

/-! ### Running -/

/-- Where the program's own events come from. -/
def programTarget : String := "rlm_sandbox"

/-- The end of a process by a program that it ran. -/
def Ending.ofHalt : Halt → Ending
  | .exit code => { code := (code.emod 256).toNat }
  | .outOfSteps => { code := 1, complaint := "Error: out of steps\n" }

/-- An error with what caused it. -/
def Ending.failed (what cause : String) : Ending where
  code := 1
  complaint := "Error: " ++ what ++ "\n\nCaused by:\n    " ++ cause ++ "\n"

/-- Serves with settings. -/
def serve (h : Host m) (fuel : Nat) (a : Arguments) (s : Settings) : m Ending := do
  let directory := s.logPlace (← h.sources.home)
  let j ← Journal.begin_ h a s directory
  j.log h ⟨.info, programTarget, "rlm-sandbox starting"⟩
  if s.logToFile then j.log h ⟨.info, programTarget, "File logging enabled"⟩
  match Server.start s.idPrefix s.contextName with
  | .error e => return .failed "failed to create execution context" e.message
  | .ok server =>
    match (← server.serve (j.ports h) h.surroundings fuel).1 with
    | .ok _ =>
      j.log h ⟨.info, programTarget, "rlm-sandbox exiting"⟩
      return { code := 0 }
    | .error (.transport e) => return .failed "transport failure" e.message
    | .error (.halt halt) => return .ofHalt halt

/-- Runs the program. -/
def run (h : Host m) (fuel : Nat) (args : List String) : m Ending := do
  match Request.ofArguments args with
  | .error e => return { code := 2, complaint := e.report }
  | .ok .help => return { code := 0, output := manual }
  | .ok .version => return { code := 0, output := versionLine }
  | .ok (.serve a) =>
    match ← a.resolve (← h.workingDirectory) h.sources with
    | .error e => return { code := 1, complaint := "Error: Config error: " ++ e.message ++ "\n" }
    | .ok s => serve h fuel a s

end LuaSession.CommandLine
