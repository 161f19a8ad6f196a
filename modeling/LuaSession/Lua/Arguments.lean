import LuaSession.Lua.Operators

/-!
# Arguments of built-in functions

A built-in function looks at its arguments one by one; the first that it cannot use is an error,
which names the function as the program called it.
-/

namespace LuaSession.Lua

/-- A call of a built-in function: the arguments, from where it was called, and how the function is
called where the program gave it no name. -/
structure Call where
  args : List Value
  site : Site
  path : String

namespace Call

open LuaSession.Lua.Task

/-- The argument at a place, counted from 1; nil if there is none. -/
def arg (c : Call) (n : Nat) : Value := c.args.getD (n - 1) .nil

/-- Whether there is an argument at a place. -/
def has (c : Call) (n : Nat) : Bool := n ≤ c.args.length

/-- Whether the argument at a place is missing or nil. -/
def lacks (c : Call) (n : Nat) : Bool := (c.arg n).isNil

/-- Raises a message about the place of the call. -/
def fail {α : Type} (c : Call) (message : String) : Task α := Task.fail c.site.spot message

/-- The site of a call that the function makes. -/
def inner (_ : Call) : Site := { deep := true, fixed := true }

/-- Raises that an argument cannot be used. -/
def failArg {α : Type} (c : Call) (n : Nat) (message : ByteArray) : Task α :=
  let numbered (n : Nat) (name : ByteArray) : Task α :=
    failAt c.site.spot (joinBytes
      [bytes "bad argument #", bytesOfChars (Number.natChars n), bytes " to '", name, bytes "' (",
       message, bytes ")"])
  match c.site.label with
  | some ("method", name) =>
    if n == 1 then
      failAt c.site.spot (joinBytes
        [bytes "calling '", name, bytes "' on bad self (", message, bytes ")"])
    else numbered (n - 1) name
  | some (_, name) => numbered n name
  | none => numbered n (bytes c.path)

/-- Raises that an argument has the wrong type. -/
def failType {α : Type} (c : Call) (n : Nat) (expected : String) : Task α := do
  let kind ← if c.has n then read (·.typeName (c.arg n)) else pure (bytes "no value")
  c.failArg n (joinBytes [bytes (expected ++ " expected, got "), kind])

/-- An argument, which must be there. -/
def any (c : Call) (n : Nat) : Task Value :=
  if c.has n then pure (c.arg n) else c.failArg n (bytes "value expected")

/-- A table. -/
def table (c : Call) (n : Nat) : Task Nat :=
  match c.arg n with
  | .table id => pure id
  | _ => c.failType n "table"

/-- A function. -/
def function (c : Call) (n : Nat) : Task Value :=
  match c.arg n with
  | .func id => pure (.func id)
  | _ => c.failType n "function"

/-- A string; numbers are written as strings. -/
def string (c : Call) (n : Nat) : Task ByteArray :=
  match toBytes? (c.arg n) with
  | some s => pure s
  | none => c.failType n "string"

/-- A string that may be missing. -/
def stringOr (c : Call) (n : Nat) (default : ByteArray) : Task ByteArray :=
  if c.lacks n then pure default else c.string n

/-- A number as a double. -/
def float (c : Call) (n : Nat) : Task Float :=
  match toFloat? (c.arg n) with
  | some x => pure x
  | none => c.failType n "number"

/-- A number. -/
def number (c : Call) (n : Nat) : Task Value :=
  match toNumber? (c.arg n) with
  | some v => pure v
  | none => c.failType n "number"

/-- An integer. -/
def int (c : Call) (n : Nat) : Task Int :=
  match toNumber? (c.arg n) with
  | some v =>
    match Lua.exactInt? v with
    | some i => pure i.toInt
    | none => c.failArg n (bytes "number has no integer representation")
  | none => c.failType n "number"

/-- An integer that may be missing. -/
def intOr (c : Call) (n : Nat) (default : Int) : Task Int :=
  if c.lacks n then pure default else c.int n

/-- One of several words, or the default if it is missing. -/
def choice (c : Call) (n : Nat) (default : Option String) (words : List String) : Task String := do
  let s ← match default with
    | some d => c.stringOr n (bytes d)
    | none => c.string n
  match words.find? fun w => bytesEq (bytes w) s with
  | some w => return w
  | none => c.failArg n (joinBytes [bytes "invalid option '", s, bytes "'"])

end Call

namespace Value

/-- The integer of a number. -/
def ofInt (n : Int) : Value := .int (Int64.ofInt n)

/-- The integer of a natural number. -/
def ofNat (n : Nat) : Value := .int (Int64.ofNat n)

end Value

end LuaSession.Lua
