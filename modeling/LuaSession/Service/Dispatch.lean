import LuaSession.Session.Evaluation
import LuaSession.Wire.Envelope

/-!
# Requests to a session

A line is decoded, its method carried out in the session, and the outcome made into a response with
the id of the request. Every line gets one response; what is wrong with a request is said in it.

* `Method.ofName_name`: a method is found by its name.
-/

namespace LuaSession.Service

open LuaSession.Lua LuaSession.Wire

/-- What can be asked of a session. -/
inductive Method
  | execute | setContext | getVariable | destroy
  deriving DecidableEq, Repr

namespace Method

/-- The name of a method. -/
def name : Method → String
  | .execute => "execute"
  | .setContext => "initialize"
  | .getVariable => "get_variable"
  | .destroy => "destroy"

/-- The method of a name. -/
def ofName? (n : String) : Option Method :=
  if n = "execute" then some .execute
  else if n = "initialize" then some .setContext
  else if n = "get_variable" then some .getVariable
  else if n = "destroy" then some .destroy
  else none

theorem ofName_name (f : Method) : ofName? f.name = some f := by
  cases f <;> decide

end Method

/-- Why a request was not carried out. -/
inductive DispatchError
  | methodNotFound (method : String)
  | invalidParams (detail : String)
  | session (e : SessionError)
  | serialize (e : Json.ReadError)

namespace DispatchError

/-- The wording of an error. -/
def message : DispatchError → String
  | .methodNotFound method => "method not found: " ++ method
  | .invalidParams d => "invalid params: " ++ d
  | .session e => e.message
  | .serialize e => "failed to serialize result: " ++ e.message

/-- The error that a response carries. -/
def toRpcError : DispatchError → RpcError
  | .methodNotFound method => .ofCode .methodNotFound method
  | .invalidParams d => .ofCode .invalidParams d
  | .session e => .ofCode .internalError e.message
  | .serialize e => .ofCode .internalError e.message

end DispatchError

/-! ### Parameters -/

/-- A request with its parameters read. -/
inductive Command
  | execute (code : String)
  | setContext (text : String)
  | getVariable (name : String)
  | destroy
  deriving DecidableEq, Repr

/-- The fields of the parameters of a method. -/
def paramFields (f : Method) : Json → Except DispatchError (List (String × Json))
  | .obj fields => .ok fields
  | _ => .error (.invalidParams (f.name ++ ": params must be an object"))

/-- A text among the parameters of a method; one that may be missing is then empty. -/
def textParam (f : Method) (name : String) (required : Bool) (params : Json) :
    Except DispatchError String := do
  let fields ← paramFields f params
  match readMember readString (Json.lookup name fields) with
  | .ok (some s) => return s
  | .ok none =>
    if required then
      .error (.invalidParams (f.name ++ ": " ++ (ShapeFault.missingField name).message))
    else return ""
  | .error e => .error (.invalidParams (f.name ++ ": " ++ e.message))

/-- Reads a request. -/
def readCommand (r : Wire.Request) : Except DispatchError Command :=
  match Method.ofName? r.method with
  | none => .error (.methodNotFound r.method)
  | some .execute => (textParam .execute "code" false r.params).map .execute
  | some .setContext => (textParam .setContext "context" false r.params).map .setContext
  | some .getVariable => (textParam .getVariable "name" true r.params).map .getVariable
  | some .destroy => .ok .destroy

/-! ### Results -/

/-- The result of a method that has nothing to say. -/
def statusOk : Json := Json.ofFields [("status", .str "ok")]

/-- The result of an evaluation: what was written, how long it took, and once more what was written
about failures if anything was. -/
def executionResult (c : Captured) (duration : Float) : Json :=
  Json.ofFields
    ([("stdout", .str c.out), ("stderr", .str c.err), ("duration", .float duration)] ++
      (if c.err.isEmpty then [] else [("error", .str c.err)]))

/-- The result of reading a binding. -/
def lookupResult (l : Session.Lookup) : Json :=
  Json.ofFields [("value", l.value), ("found", .bool l.found)]

/-! ### Dispatch -/

/-- Where the events of requests come from. -/
def target : String := "rlm_runtime::dispatcher"

variable {m : Type → Type} [Monad m]

/-- Carries out a command. -/
def perform (o : Outside m) (fuel : Nat) (s : Session) :
    Command → m (Except Halt (Json × Session))
  | .execute code => do
    let before ← o.stopwatch
    match ← s.execute o fuel code with
    | .error h => return .error h
    | .ok (c, s) =>
      let after ← o.stopwatch
      return .ok (executionResult c (after - before), s)
  | .setContext text => do
    let s ← s.provide o text
    return .ok (statusOk, s)
  | .getVariable name => do
    match ← s.lookup o fuel name with
    | .error h => return .error h
    | .ok (l, s) => return .ok (lookupResult l, s)
  | .destroy => do
    let s ← s.destroy o
    return .ok (statusOk, s)

/-- Answers a request. -/
def dispatch (o : Outside m) (fuel : Nat) (s : Session) (r : Wire.Request) :
    m (Except Halt (Response × Session)) := do
  o.log ⟨.debug, target, "dispatching request"⟩
  match readCommand r with
  | .ok c =>
    match ← perform o fuel s c with
    | .error h => return .error h
    | .ok (result, s) => return .ok (⟨r.id, .ok result⟩, s)
  | .error e =>
    match e with
    | .methodNotFound _ => o.log ⟨.warn, target, "unknown method"⟩
    | _ => o.log ⟨.debug, target, "request failed"⟩
    return .ok (⟨r.id, .error e.toRpcError⟩, s)

/-- Answers a line. -/
def dispatchLine (o : Outside m) (fuel : Nat) (s : Session) (line : String) :
    m (Except Halt (Response × Session)) := do
  match decodeRequest line.toList with
  | .ok r => dispatch o fuel s r
  | .error e =>
    o.log ⟨.warn, target, "rejecting undecodable line"⟩
    return .ok (⟨e.id, .error e.toRpcError⟩, s)

end LuaSession.Service
