import LuaSession.Log.Event
import LuaSession.Lua.Builtin
import LuaSession.Lua.Numeral
import LuaSession.Lua.Syntax
import LuaSession.Lua.Table

/-!
# Tasks

What an evaluation may do. A `Task` is a computation over the memory of a program that ends with an
answer; where it needs more than the memory it becomes a `Step`: a call, a loop, a protected part, a
question to the machine that runs it or a request to the host, each with what is to be done after
it. A step is data, so whoever runs it decides what the outside answers, and the program can reach
the outside in no other way.
-/

namespace LuaSession.Lua

/-! ### Memory -/

/-- What is in a slot of a running function: a value, or the cell of a variable that inner functions
share. -/
inductive Slot
  | value (v : Value)
  | cell (id : Nat)
  deriving Inhabited

/-- A function. -/
inductive Func
  | closure (f : Proto) (captures : Array Nat)
  | builtin (b : Builtin)

instance : Inhabited Func := ⟨.closure default #[]⟩

/-- What a running function has besides its slots: which slots are shared, its captures, the
arguments after its parameters, and its chunk. -/
structure Activation where
  shared : Array Bool := #[]
  captures : Array Nat := #[]
  more : List Value := []
  chunk : ByteArray := ByteArray.empty
  deriving Inhabited

/-- What programs set about the collection of garbage. -/
structure Collector where
  running : Bool := true
  generational : Bool := false
  pause : Int := 200
  pace : Int := 100
  deriving Inhabited

/-- The memory of a program. -/
structure Mem where
  tables : Array Table := #[]
  funcs : Array Func := #[]
  cells : Array Value := #[]
  failures : Array HostError := #[]
  slots : Array Slot := #[]
  act : Activation := {}
  globals : Nat := 0
  stringMeta : Option Nat := none
  failureMeta : Option Nat := none
  fileMeta : Option Nat := none
  listMeta : Option Nat := none
  random : UInt64 × UInt64 × UInt64 × UInt64 := (0, 0, 0, 0)
  warnings : Bool := false
  collector : Collector := {}
  deriving Inhabited

namespace Mem

/-- Adds a table. -/
def newTable (m : Mem) (t : Table) : Nat × Mem :=
  (m.tables.size, { m with tables := m.tables.push t })

/-- Adds a function. -/
def newFunc (m : Mem) (f : Func) : Nat × Mem :=
  (m.funcs.size, { m with funcs := m.funcs.push f })

/-- Adds a cell. -/
def newCell (m : Mem) (v : Value) : Nat × Mem :=
  (m.cells.size, { m with cells := m.cells.push v })

/-- Adds a failure of the host. -/
def newFailure (m : Mem) (e : HostError) : Nat × Mem :=
  (m.failures.size, { m with failures := m.failures.push e })

/-- The place of the function that goes from one entry of a table to the next. -/
def nextFunc : Nat := 0

/-- The place of the function that goes from one item of a list to the next. -/
def ipairsFunc : Nat := 1

/-- The table of a name. -/
def table (m : Mem) (id : Nat) : Table := m.tables.getD id {}

/-- The value of a key in a table, without metamethods. -/
def rawGet (m : Mem) (id : Nat) (key : Value) : Value :=
  match m.tables[id]? with
  | some t => t.get key
  | none => .nil

/-- Sets the value of a key in a table, without metamethods. -/
def rawSet (m : Mem) (id : Nat) (key value : Value) : Mem :=
  { m with tables := m.tables.modify id fun t => t.set key value }

/-- Changes a table. -/
def modifyTable (m : Mem) (id : Nat) (f : Table → Table) : Mem :=
  { m with tables := m.tables.modify id f }

/-- The metatable of a value. -/
def metatable (m : Mem) : Value → Option Nat
  | .table id => (m.tables[id]?).bind (·.metatable)
  | .str _ => m.stringMeta
  | .failure _ => m.failureMeta
  | .file _ => m.fileMeta
  | _ => none

/-- The metamethod of a value for an event, or nil. -/
def metamethod (m : Mem) (v : Value) (event : String) : Value :=
  match m.metatable v with
  | some id =>
    match m.tables[id]? with
    | some t => t.getText event
    | none => .nil
  | none => .nil

/-- The name of a value's type in messages, which a metatable may give. -/
def typeName (m : Mem) (v : Value) : ByteArray :=
  match v with
  | .table _ | .failure _ | .file _ =>
    match m.metamethod v "__name" with
    | .str s => s
    | _ => bytes v.typeName
  | _ => bytes v.typeName

/-- The value in a slot. -/
def slotValue (m : Mem) (i : Nat) : Value :=
  match m.slots[i]? with
  | some (.value v) => v
  | some (.cell id) => m.cells.getD id .nil
  | none => .nil

/-- Assigns to the variable in a slot. -/
def assignSlot (m : Mem) (i : Nat) (v : Value) : Mem :=
  match m.slots[i]? with
  | some (.cell id) => { m with cells := m.cells.setIfInBounds id v }
  | _ => { m with slots := m.slots.setIfInBounds i (.value v) }

/-- Begins the life of the variable in a slot; a shared one gets a cell of its own. -/
def declareSlot (m : Mem) (i : Nat) (v : Value) : Mem :=
  if m.act.shared.getD i false then
    let (id, m) := m.newCell v
    { m with slots := m.slots.setIfInBounds i (.cell id) }
  else { m with slots := m.slots.setIfInBounds i (.value v) }

/-- The value of a variable. -/
def lookup (m : Mem) : Place → Value
  | .slot i => m.slotValue i
  | .captured i =>
    match m.act.captures[i]? with
    | some id => m.cells.getD id .nil
    | none => .nil

/-- Assigns to a variable. -/
def assign (m : Mem) (place : Place) (v : Value) : Mem :=
  match place with
  | .slot i => m.assignSlot i v
  | .captured i =>
    match m.act.captures[i]? with
    | some id => { m with cells := m.cells.setIfInBounds id v }
    | none => m

/-- The memory when no function runs. -/
def atRest (m : Mem) : Mem := { m with slots := #[], act := {} }

/-- The cell of a variable that an inner function captures. -/
def cellOf (m : Mem) : Place → Nat
  | .slot i =>
    match m.slots[i]? with
    | some (.cell id) => id
    | _ => 0
  | .captured i => m.act.captures.getD i 0

end Mem

/-! ### Steps -/

/-- A line of a chunk. -/
structure Spot where
  chunk : ByteArray
  line : Nat
  deriving Inhabited

/-- From where something is called: the place in the program if it is a program that calls, what the
program calls the callee, whether the call needs native stack, and whether a coroutine may not be
left during it. -/
structure Site where
  spot : Option Spot := none
  label : Option Label := none
  deep : Bool := false
  fixed : Bool := false
  deriving Inhabited

/-- How a statement or a part of one ends. -/
inductive Flow
  | normal
  | leaveLoop
  | goto (label : String)
  | give (vs : List Value)
  | giveCall (f : Value) (args : List Value) (site : Site)
  deriving Inhabited

/-- The states of a coroutine. -/
inductive ThreadStatus
  | suspended | running | normal | dead
  deriving DecidableEq, Repr

/-- What only the outside can do. -/
inductive Request
  | write (channel : Channel) (text : String)
  | spill (channel : Channel) (content : ByteArray)
  | ask (method : String) (params : Json)
  | context
  | log (e : Log.Event)
  | now
  | clock
  | variable_ (name : String)
  | exit (code : Int)

/-- The type of the answer to a request. -/
def Request.Reply : Request → Type
  | .write .. | .spill .. | .log _ | .exit _ => Unit
  | .ask .. => Except BridgeError Json
  | .context => String
  | .now => Int
  | .clock => Float
  | .variable_ _ => Option ByteArray

/-- What only the machine knows or does. -/
inductive Inquiry
  | spot (level : Nat)
  | spawn (f : Value)
  | status (thread : Nat)
  | running
  | canYield

/-- The type of the answer to an inquiry. -/
def Inquiry.Reply : Inquiry → Type
  | .spot _ => Option Spot
  | .spawn _ => Nat
  | .status _ => ThreadStatus
  | .running => Nat × Bool
  | .canYield => Bool

/-- What a protected part does with an error: passes it on as it is, lets a function look at it
where it was raised, makes it a text with a traceback, or only tidies up before it goes on. -/
inductive Catch
  | plain
  | handler (f : Value)
  | traceback
  | tidy

/-- What comes next in an evaluation. -/
inductive Step
  | leave (flow : Flow) (m : Mem)
  | raise (e : Value) (m : Mem)
  | rethrow (e : Value) (m : Mem)
  | call (f : Value) (args : List Value) (site : Site) (k : List Value → Mem → Step) (m : Mem)
  | loop (start : List Value) (body : List Value → Mem → Step) (k : Flow → Mem → Step) (m : Mem)
  | again (state : List Value) (m : Mem)
  | protect (how : Catch) (body : Mem → Step) (k : Except Value Flow → Mem → Step) (m : Mem)
  | ask (r : Request) (k : r.Reply → Mem → Step) (m : Mem)
  | inquire (q : Inquiry) (k : q.Reply → Mem → Step) (m : Mem)
  | resume (thread : Nat) (args : List Value)
      (k : Except Value (List Value) → Mem → Step) (m : Mem)
  | yield (vs : List Value) (k : List Value → Mem → Step) (m : Mem)
  | close (thread : Nat) (k : Except Value Unit → Mem → Step) (m : Mem)

/-! ### Tasks -/

/-- A computation with an answer. -/
def Task (α : Type) : Type := (α → Mem → Step) → Mem → Step

namespace Task

instance : Monad Task where
  pure a := fun k m => k a m
  bind t f := fun k m => t (fun a m => f a k m) m

/-- Something that can be read off the memory. -/
def read {α : Type} (f : Mem → α) : Task α := fun k m => k (f m) m

/-- A change of the memory with an answer. -/
def change {α : Type} (f : Mem → α × Mem) : Task α := fun k m =>
  let (a, m) := f m
  k a m

/-- A change of the memory. -/
def update (f : Mem → Mem) : Task Unit := fun k m => k () (f m)

/-- Raises an error. -/
def raise {α : Type} (e : Value) : Task α := fun _ m => .raise e m

/-- Goes on with an error that was caught, which no function looks at again. -/
def rethrow {α : Type} (e : Value) : Task α := fun _ m => .rethrow e m

/-- Calls a function. -/
def call (f : Value) (args : List Value) (site : Site) : Task (List Value) := fun k m =>
  .call f args site k m

/-- Repeats a body: each round gets what the round before it left, until one ends the loop. -/
def loop (start : List Value) (body : List Value → Task (List Value ⊕ Flow)) : Task Flow :=
  fun k m =>
    .loop start
      (fun s m => body s (fun r m => match r with
        | .inl s => .again s m
        | .inr flow => .leave flow m) m)
      k m

/-- Runs a part in which errors are caught. -/
def protect (how : Catch) (body : Task Flow) : Task (Except Value Flow) := fun k m =>
  .protect how (fun m => body (fun flow m => .leave flow m) m) k m

/-- Runs a part that gives values, in which errors are caught. -/
def protectValues (how : Catch) (body : Task (List Value)) :
    Task (Except Value (List Value)) := do
  match ← protect how (do return .give (← body)) with
  | .ok (.give vs) => return .ok vs
  | .ok _ => return .ok []
  | .error e => return .error e

/-- Makes a request to the outside. -/
def ask (r : Request) : Task r.Reply := fun k m => .ask r k m

/-- Asks the machine. -/
def inquire (q : Inquiry) : Task q.Reply := fun k m => .inquire q k m

/-- Resumes a coroutine. -/
def resume (thread : Nat) (args : List Value) : Task (Except Value (List Value)) := fun k m =>
  .resume thread args k m

/-- Leaves the coroutine until it is resumed. -/
def yield (vs : List Value) : Task (List Value) := fun k m => .yield vs k m

/-- Closes a coroutine. -/
def close (thread : Nat) : Task (Except Value Unit) := fun k m => .close thread k m

/-! ### Errors -/

/-- A message with the place that it is about. -/
def placedMessage (spot : Option Spot) (message : ByteArray) : ByteArray :=
  match spot with
  | some s => joinBytes
      [s.chunk, bytes ":", bytesOfChars (Number.natChars s.line), bytes ": ", message]
  | none => message

/-- Raises a message about a place. -/
def failAt {α : Type} (spot : Option Spot) (message : ByteArray) : Task α :=
  raise (.str (placedMessage spot message))

/-- Raises a text about a place. -/
def fail {α : Type} (spot : Option Spot) (message : String) : Task α :=
  failAt spot (bytes message)

/-- Raises a failure of the host. -/
def raiseHost {α : Type} (e : HostError) : Task α := do
  let id ← change fun m => m.newFailure (.callback e)
  raise (.failure id)

/-- A new table. -/
def newTable (t : Table) : Task Value :=
  change fun m => let (id, m) := m.newTable t; (.table id, m)

/-- A new built-in function. -/
def newBuiltin (b : Builtin) : Task Value :=
  change fun m => let (id, m) := m.newFunc (.builtin b); (.func id, m)

end Task

end LuaSession.Lua
