import LuaSession.Session.Basic

/-!
# Evaluation in a session

`Session.execute` runs a program against the bindings and gives what it wrote, with the description of
the failure that ended it if one did. `Session.lookup` reads a binding: its JSON form, or else its
text as programs see it.
-/

namespace LuaSession.Session

open LuaSession.Lua

/-- How failures and tracebacks call evaluated code. -/
def chunkSource : ByteArray := bytes "=sandbox"

/-- A description of a failure, with its kind in front and a line end behind. -/
def description (kind message : String) : String :=
  let d := kind ++ ": " ++ message
  if d.endsWith "\n" then d else d ++ "\n"

/-- The description of what a program raised. -/
def describe (m : Mem) (e : Value) : String :=
  let (kind, message) := match e with
    | .failure id => (m.failures.getD id (.runtime ByteArray.empty)).describe
    | .str s => (HostError.runtime s).describe
    | _ => (HostError.runtime ByteArray.empty).describe
  description kind message

/-- Where the events of a session come from. -/
def target : String := "rlm_lua::context"

variable {m : Type → Type} [Monad m]

/-- Runs a task in a session. -/
def run (o : Outside m) (fuel : Nat) (s : Session) (t : Lua.Task (List Value)) :
    m (Except Halt (Except Value (List Value) × Session)) := do
  match ← runTask o s.text fuel s.sink s.threads t s.mem with
  | .error h => return .error h
  | .ok r =>
    return .ok (r.result, { s with mem := r.mem.atRest, threads := r.threads, sink := r.sink })

/-- Calls a program whose `_ENV` is the bindings. -/
def chunk (s : Session) (f : Proto) : Lua.Task (List Value) := do
  let v ← BasicFn.enclose f (.table s.bindings)
  Lua.Task.call v [] { deep := true, fixed := true }

/-- Runs a program and gives the description of its failure if it fails. -/
def evaluate (o : Outside m) (fuel : Nat) (s : Session) (code : String) :
    m (Except Halt (Option String × Session)) := do
  match BasicFn.compile (bytes code) chunkSource (bytes "bt") with
  | .error e => return .ok (some (description "SyntaxError" (Text.Utf8.decodeBytes e)), s)
  | .ok f =>
    match ← s.run o fuel (s.chunk f) with
    | .error h => return .error h
    | .ok (.ok _, s) => return .ok (none, s)
    | .ok (.error e, s) => return .ok (some (describe s.mem e), s)

/-- Runs a program and gives what it wrote. -/
def execute (o : Outside m) (fuel : Nat) (s : Session) (code : String) :
    m (Except Halt (Captured × Session)) := do
  o.log ⟨.debug, target, "executing"⟩
  let (guard, sink) := s.sink.capture
  match ← evaluate o fuel { s with sink := sink } code with
  | .error h => return .error h
  | .ok (failure, s) =>
    let (captured, sink) := s.sink.finish guard
    let captured := match failure with
      | some d => captured.append .err d
      | none => captured
    o.log ⟨.debug, target, "execution completed"⟩
    return .ok (captured, { s with sink := sink })

/-- What a binding holds. -/
structure Lookup where
  found : Bool
  value : Json

/-- The text of a value by the function that programs use for this. -/
def textOf (v : Value) : Lua.Task (List Value) := do
  let globals ← Lua.Task.read fun m => .table m.globals
  match ← Lua.Task.index none globals (.text "tostring") none with
  | .func id => Lua.Task.call (.func id) [v] { deep := true, fixed := true }
  | _ => return []

/-- Reads a value: its JSON form, or else its text. -/
def present (o : Outside m) (fuel : Nat) (s : Session) (v : Value) :
    m (Except Halt (Lookup × Session)) := do
  match s.mem.json? v with
  | some j => return .ok (⟨true, j⟩, s)
  | none =>
    match ← s.run o fuel (textOf v) with
    | .error h => return .error h
    | .ok (r, s) =>
      let made := match r with
        | .ok (w :: _) => toBytes? w
        | _ => none
      let text := match made with
        | some t => Text.Utf8.decodeBytes t
        | none => "<" ++ HostFn.kindOf v ++ ">"
      return .ok (⟨true, .str text⟩, s)

/-- Reads a binding. -/
def lookup (o : Outside m) (fuel : Nat) (s : Session) (name : String) :
    m (Except Halt (Lookup × Session)) :=
  match s.mem.rawGet s.bindings (.text name) with
  | .nil => pure (.ok (⟨false, .null⟩, s))
  | v => s.present o fuel v

/-- Gives the session a context. -/
def provide (o : Outside m) (s : Session) (text : String) : m Session := do
  o.log ⟨.debug, target, "initializing context"⟩
  return s.setContext text

/-- Unbinds everything. -/
def destroy (o : Outside m) (s : Session) : m Session := do
  o.log ⟨.debug, target, "context destroyed"⟩
  return s.clear

end LuaSession.Session
