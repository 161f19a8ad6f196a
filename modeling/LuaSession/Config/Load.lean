import LuaSession.Config.Document
import LuaSession.Storage.Path
import LuaSession.Text.Utf8

/-!
# Loading settings

Settings come in layers: the file for all projects, the file of the project, then the environment.
A file that is missing is no layer; one that cannot be read or understood is an error. What the
environment says is taken even where it is the default. In the end the settings have to be usable.

* `validate_eq_ok_iff`: settings are usable if the two names are not blank.
-/

namespace LuaSession.Config

/-- What is found where a file may be. -/
inductive FileContent
  | absent
  | unreadable (detail : String)
  | bytes (content : ByteArray)

/-- Where settings come from: the files, the environment and the home of the user. -/
structure Sources (m : Type → Type) where
  file : String → m FileContent
  variable_ : String → m (Option ByteArray)
  home : m (Option String)

/-- Why there are no settings. -/
inductive ConfigError
  | unreadableFile (path detail : String)
  | malformedFile (path report : String)
  | invalidVariable (name detail : String)
  | invalidValue (key detail : String)
  deriving DecidableEq, Repr

/-- The wording of an error. -/
def ConfigError.message : ConfigError → String
  | .unreadableFile path d => "failed to read config file '" ++ path ++ "': " ++ d
  | .malformedFile path report => "failed to parse config file '" ++ path ++ "': " ++ report
  | .invalidVariable name d =>
    "invalid value for environment variable '" ++ name ++ "': " ++ d
  | .invalidValue key d => "invalid setting '" ++ key ++ "': " ++ d

/-! ### Files -/

/-- The layer of a file. -/
def layerOf (path : String) : FileContent → Except ConfigError (Option Settings)
  | .absent => .ok none
  | .unreadable d => .error (.unreadableFile path d)
  | .bytes content =>
    match Text.Utf8.decode? content with
    | .error _ => .error (.unreadableFile path "stream did not contain valid UTF-8")
    | .ok text =>
      match Settings.read text with
      | .error report => .error (.malformedFile path report)
      | .ok s => .ok (some s)

/-- The directory of the user's files. -/
def userDirectory (home : Option String) : String :=
  Storage.join (home.getD ".") ".rlm"

/-- The file for all projects. -/
def globalFile (home : Option String) : String :=
  Storage.join (userDirectory home) "config.toml"

/-- The file of a project. -/
def projectFile (root : String) : String :=
  Storage.join (Storage.join root ".rlm") "config.toml"

/-- The directory of the log file. -/
def Settings.logPlace (home : Option String) (s : Settings) : String :=
  s.logDirectory.getD (Storage.join (userDirectory home) "logs")

/-! ### The environment -/

/-- Whether a text says yes or no. Case does not matter, and no character outside ASCII is the
upper case of a letter of these words. -/
def truthOf (s : String) : Option Bool :=
  let s := s.toLower
  if ["true", "1", "yes", "on"].contains s then some true
  else if ["false", "0", "no", "off"].contains s then some false
  else none

/-- What the environment says. -/
structure Environment where
  debug : Option String := none
  idPrefix : Option String := none
  logDirectory : Option String := none
  logLevel : Option String := none
  deriving DecidableEq, Repr

/-- Settings with what the environment says. A log directory asks for a log file. -/
def Environment.apply (e : Environment) (s : Settings) : Except ConfigError Settings := do
  let debug ← match e.debug with
    | none => pure s.debug
    | some text =>
      match truthOf text with
      | some b => pure b
      | none => throw (.invalidVariable "RLM_DEBUG" "expected bool")
  return { s with
    debug
    idPrefix := e.idPrefix.getD s.idPrefix
    logToFile := s.logToFile || e.logDirectory.isSome
    logDirectory := e.logDirectory.or s.logDirectory
    logLevel := e.logLevel.getD s.logLevel }

/-! ### All layers -/

/-- Settings that can be used, or the first that cannot. -/
def validate (s : Settings) : Except ConfigError Unit :=
  if Text.isBlankText s.idPrefix.toList then
    .error (.invalidValue "bridge.id_prefix" "must not be empty")
  else if Text.isBlankText s.contextName.toList then
    .error (.invalidValue "context.variable" "must not be empty")
  else .ok ()

theorem validate_eq_ok_iff (s : Settings) :
    validate s = .ok () ↔
      Text.isBlankText s.idPrefix.toList = false ∧ Text.isBlankText s.contextName.toList = false := by
  unfold validate
  cases Text.isBlankText s.idPrefix.toList <;> cases Text.isBlankText s.contextName.toList <;> simp

/-- What is to be loaded: the file for all projects if it is another than usual, the root of the
project, and what is left out. -/
structure Loader where
  globalPath : Option String := none
  projectRoot : Option String := none
  skipEnvironment : Bool := false
  skipGlobal : Bool := false
  skipProject : Bool := false
  deriving DecidableEq, Repr

variable {m : Type → Type} [Monad m]

/-- Lays a file over settings. -/
def layFile (src : Sources m) (path : String) (s : Settings) : ExceptT ConfigError m Settings := do
  match layerOf path (← src.file path) with
  | .error e => throw e
  | .ok layer => return (layer.map s.merge).getD s

/-- What the environment says; what is no text says nothing. -/
def Sources.environment (src : Sources m) : m Environment := do
  let get (name : String) : m (Option String) := do
    return (← src.variable_ name).bind fun b => (Text.Utf8.decode? b).toOption
  return {
    debug := ← get "RLM_DEBUG"
    idPrefix := ← get "RLM_BRIDGE_PREFIX"
    logDirectory := ← get "RLM_LOG_FILE"
    logLevel := ← get "RLM_LOG_LEVEL" }

/-- Loads all layers. -/
def Loader.load (l : Loader) (src : Sources m) : ExceptT ConfigError m Settings := do
  let mut s : Settings := {}
  if !l.skipGlobal then
    let path := l.globalPath.getD (globalFile (← src.home))
    s ← layFile src path s
  if !l.skipProject then
    match l.projectRoot with
    | some root => s ← layFile src (projectFile root) s
    | none => pure ()
  if !l.skipEnvironment then
    match (← src.environment).apply s with
    | .ok t => s := t
    | .error e => throw e
  match validate s with
  | .ok () => return s
  | .error e => throw e

end LuaSession.Config
