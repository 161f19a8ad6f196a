import LuaSession.Bridge.Basic
import LuaSession.Lua.Bytes
import LuaSession.Number.Binary
import LuaSession.Pattern.Basic
import LuaSession.Text.Utf8

/-!
# Values

The values of Lua. Tables, functions, coroutines and failures of the host are named by their places
in the store, so that a value is plain data and two names are equal exactly when the things are the
same. The files are the three streams of the process.
-/

namespace LuaSession.Lua

/-- A value. -/
inductive Value
  | nil
  | bool (b : Bool)
  | int (n : Int64)
  | float (x : Float)
  | str (s : ByteArray)
  | table (id : Nat)
  | func (id : Nat)
  | thread (id : Nat)
  | failure (id : Nat)
  | file (id : Nat)
  deriving Inhabited

namespace Value

/-- The string of a text. -/
def text (s : String) : Value := .str (bytes s)

/-- Whether the value counts as true. -/
def truthy : Value → Bool
  | .nil => false
  | .bool b => b
  | _ => true

/-- Whether the value is nil. -/
def isNil : Value → Bool
  | .nil => true
  | _ => false

/-- The name of the value's type. -/
def typeName : Value → String
  | .nil => "nil"
  | .bool _ => "boolean"
  | .int _ | .float _ => "number"
  | .str _ => "string"
  | .table _ => "table"
  | .func _ => "function"
  | .thread _ => "thread"
  | .failure _ | .file _ => "userdata"

/-- Whether the value is a number. -/
def isNumber : Value → Bool
  | .int _ | .float _ => true
  | _ => false

end Value

/-- An integer as a double. -/
def floatOfInt64 (n : Int64) : Float :=
  Number.floatOfInt n.toInt

/-- The integer that a double equals exactly, if there is one of 64 bits. -/
def int64OfFloat? (x : Float) : Option Int64 :=
  if -9223372036854775808.0 ≤ x && x < 9223372036854775808.0 then
    let n := x.toInt64
    if n.toFloat == x then some n else none
  else none

/-- Whether two values are equal without any metamethod. -/
def rawEq : Value → Value → Bool
  | .nil, .nil => true
  | .bool a, .bool b => a == b
  | .int a, .int b => a == b
  | .float a, .float b => a == b
  | .int a, .float b =>
    match int64OfFloat? b with
    | some n => a == n
    | none => false
  | .float a, .int b =>
    match int64OfFloat? a with
    | some n => n == b
    | none => false
  | .str a, .str b => bytesEq a b
  | .table a, .table b => a == b
  | .func a, .func b => a == b
  | .thread a, .thread b => a == b
  | .failure a, .failure b => a == b
  | .file a, .file b => a == b
  | _, _ => false

/-- Why a function of the host failed. -/
inductive HostError
  | runtime (message : ByteArray)
  | refused (r : Pattern.Refusal)
  | bridge (e : BridgeError)
  | conversion (text : String)
  | callback (cause : HostError)

namespace HostError

/-- How every traceback begins. -/
def tracebackHead : String := "stack traceback:"

/-- The kind of a failure and its description, to which each function of the host that it passed
through adds a traceback. -/
def describe : HostError → String × String
  | .runtime m => ("RuntimeError", Text.Utf8.decodeBytes m)
  | .refused r => ("UtilityError", r.message)
  | .bridge e => ("BridgeError", e.message)
  | .conversion t => ("Error", t)
  | .callback c => (c.describe.1, c.describe.2 ++ "\n" ++ tracebackHead)

/-- The failure that is the cause of all. -/
def root : HostError → HostError
  | .callback c => c.root
  | e => e

/-- The failure as evaluated code sees it in text. -/
def display (e : HostError) : String :=
  let cause := match e.root with
    | .runtime m => "runtime error: " ++ Text.Utf8.decodeBytes m
    | r => r.describe.2
  match e with
  | .callback _ => cause ++ "\n" ++ tracebackHead ++ "\n"
  | _ => cause

end HostError

end LuaSession.Lua
