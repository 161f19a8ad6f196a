/-!
# Events for the log

What is worth a line in the log: a level, the part of the program it comes from, and a text.
-/

namespace LuaSession.Log

/-- The levels, the gravest first. -/
inductive Level
  | error | warn | info | debug | trace
  deriving DecidableEq, Repr

/-- The rank of a level; a graver level has a lower rank. -/
def Level.rank : Level → Nat
  | .error => 1
  | .warn => 2
  | .info => 3
  | .debug => 4
  | .trace => 5

/-- The name of a level. -/
def Level.name : Level → String
  | .error => "ERROR"
  | .warn => "WARN"
  | .info => "INFO"
  | .debug => "DEBUG"
  | .trace => "TRACE"

/-- The level that evaluated code asks for by name, in any case; other names ask for `info`. -/
def Level.ofName (name : String) : Level :=
  match name.toLower with
  | "trace" => .trace
  | "debug" => .debug
  | "warn" => .warn
  | "error" => .error
  | _ => .info

/-- An event. -/
structure Event where
  level : Level
  target : String
  text : String
  deriving DecidableEq, Repr

end LuaSession.Log
