import LuaSession.Lua.Arithmetic
import LuaSession.Lua.Task

/-!
# Operators

What operators do with values of any kind. Where the operands are none that an operator is made for,
a metamethod decides; where there is none, an error says what the operand is and, if it comes from
a variable or a field, how it is called.

`Origin` is where an operation stands in a program; operations that a built-in function performs
have none.
-/

namespace LuaSession.Lua

/-- The place of an operation in a program. -/
abbrev Origin := Option Spot

namespace Task

/-- The first value of several. -/
def firstOf : List Value → Value
  | v :: _ => v
  | [] => .nil

/-- Calls a function for the sake of its first value. -/
def callOne (f : Value) (args : List Value) (site : Site) : Task Value := do
  return firstOf (← call f args site)

/-- The site of a call of a metamethod. A built-in function that performs the operation cannot be
left by a coroutine. -/
def metaSite (origin : Origin) (event : String) : Site where
  spot := origin
  label := some ("metamethod", bytes event)
  deep := true
  fixed := origin.isNone

/-- How messages add the name of a value. -/
def labelText : Option Label → ByteArray
  | some (kind, name) => joinBytes [bytes (" (" ++ kind ++ " '"), name, bytes "')"]
  | none => ByteArray.empty

/-- Raises that an operation cannot be done with a value. -/
def failType {α : Type} (origin : Origin) (action : String) (v : Value) (label : Option Label) :
    Task α := do
  let kind ← read (·.typeName v)
  failAt origin (joinBytes
    [bytes ("attempt to " ++ action ++ " a "), kind, bytes " value", labelText label])

/-! ### Fields -/

/-- How many metatables a look-up follows. -/
def chainLimit : Nat := 2000

/-- The value of a key, following `__index`; `fuel` bounds the metatables. -/
def indexFrom (origin : Origin) (key : Value) :
    (fuel : Nat) → (v : Value) → (label : Option Label) → Task Value
  | 0, _, _ => fail origin "'__index' chain too long; possibly a loop"
  | fuel + 1, v, label => do
    let found ← match v with
      | .table id => read (·.rawGet id key)
      | _ => pure .nil
    if !found.isNil then return found
    let tm ← read (·.metamethod v "__index")
    match tm, v with
    | .nil, .table _ => return .nil
    | .nil, _ => failType origin "index" v label
    | .func _, _ => callOne tm [v, key] (metaSite origin "index")
    | _, _ => indexFrom origin key fuel tm none

/-- The value of a key. -/
def index (origin : Origin) (v key : Value) (label : Option Label) : Task Value :=
  indexFrom origin key chainLimit v label

/-- Sets a key of a table that has no metamethod for it. -/
def setRaw (origin : Origin) (id : Nat) (key value : Value) : Task Unit :=
  match key with
  | .nil => fail origin "table index is nil"
  | .float x =>
    if x.isNaN then fail origin "table index is NaN" else update (·.rawSet id key value)
  | _ => update (·.rawSet id key value)

/-- Sets the value of a key, following `__newindex`; `fuel` bounds the metatables. -/
def setIndexFrom (origin : Origin) (key value : Value) :
    (fuel : Nat) → (v : Value) → (label : Option Label) → Task Unit
  | 0, _, _ => fail origin "'__newindex' chain too long; possibly a loop"
  | fuel + 1, v, label => do
    let found ← match v with
      | .table id => read (·.rawGet id key)
      | _ => pure .nil
    let tm ← if found.isNil then read (·.metamethod v "__newindex") else pure .nil
    match tm, v with
    | .nil, .table id => setRaw origin id key value
    | .nil, _ => failType origin "index" v label
    | .func _, _ => do
      let _ ← call tm [v, key, value] (metaSite origin "newindex")
    | _, _ => setIndexFrom origin key value fuel tm none

/-- Sets the value of a key. -/
def setIndex (origin : Origin) (v key value : Value) (label : Option Label) : Task Unit :=
  setIndexFrom origin key value chainLimit v label

/-! ### Operations -/

/-- The metamethod of an operation: that of the first operand, or else of the second. -/
def binaryMeta (event : String) (a b : Value) : Task Value := do
  let tm ← read (·.metamethod a event)
  if tm.isNil then read (·.metamethod b event) else return tm

/-- The name of the metamethod of an operator. -/
def eventOf : Binary → String
  | .add => "add"
  | .sub => "sub"
  | .mul => "mul"
  | .mod => "mod"
  | .pow => "pow"
  | .div => "div"
  | .idiv => "idiv"
  | .band => "band"
  | .bor => "bor"
  | .bxor => "bxor"
  | .shl => "shl"
  | .shr => "shr"
  | .concat => "concat"
  | .eq | .ne => "eq"
  | .lt | .gt => "lt"
  | .le | .ge => "le"

/-- Raises that an operation cannot be done with two operands, and names the one to blame. -/
def failArith {α : Type} (origin : Origin) (op : Binary) (a b : Value)
    (la lb : Option Label) : Task α :=
  let blame (action : String) : Task α :=
    if a.isNumber then failType origin action b lb else failType origin action a la
  if op.isBitwise then
    if a.isNumber && b.isNumber then
      let label := if (toInt? a).isSome then lb else la
      failAt origin (joinBytes
        [bytes "number", labelText label, bytes " has no integer representation"])
    else blame "perform bitwise operation on"
  else blame "perform arithmetic on"

/-- The result of an arithmetic or bitwise operator. -/
def arith (origin : Origin) (op : Binary) (a b : Value) (la lb : Option Label) : Task Value := do
  match computeNumbers op a b with
  | some (.ok v) => return v
  | some (.error e) => fail origin e.message
  | none =>
    let tm ← binaryMeta ("__" ++ eventOf op) a b
    if tm.isNil then failArith origin op a b la lb
    else callOne tm [a, b] (metaSite origin (eventOf op))

/-- Raises that two values have no order. -/
def failOrder {α : Type} (origin : Origin) (a b : Value) : Task α := do
  let ta ← read (·.typeName a)
  let tb ← read (·.typeName b)
  if ta == tb then
    failAt origin (joinBytes [bytes "attempt to compare two ", ta, bytes " values"])
  else
    failAt origin (joinBytes [bytes "attempt to compare ", ta, bytes " with ", tb])

/-- Whether a value is below another. -/
def below (origin : Origin) (a b : Value) : Task Bool := do
  match below? a b with
  | some r => return r
  | none =>
    let tm ← binaryMeta "__lt" a b
    if tm.isNil then failOrder origin a b
    else return (← callOne tm [a, b] (metaSite origin "lt")).truthy

/-- Whether a value is not above another. Without a metamethod of its own, this is that the second
is not below the first. -/
def upTo (origin : Origin) (a b : Value) : Task Bool := do
  match upTo? a b with
  | some r => return r
  | none =>
    let tm ← binaryMeta "__le" a b
    if !tm.isNil then
      return (← callOne tm [a, b] (metaSite origin "le")).truthy
    let tm ← binaryMeta "__lt" b a
    if tm.isNil then failOrder origin a b
    else return !(← callOne tm [b, a] (metaSite origin "lt")).truthy

/-- Whether two values are equal. -/
def equal (origin : Origin) (a b : Value) : Task Bool := do
  if rawEq a b then return true
  match a, b with
  | .table _, .table _ | .failure _, .failure _ | .file _, .file _ =>
    let tm ← binaryMeta "__eq" a b
    if tm.isNil then return false
    else return (← callOne tm [a, b] (metaSite origin "eq")).truthy
  | _, _ => return false

/-- The concatenation of two values. -/
def concat (origin : Origin) (a b : Value) (la lb : Option Label) : Task Value := do
  match toBytes? a, toBytes? b with
  | some x, some y => return .str (x ++ y)
  | x, _ =>
    let tm ← binaryMeta "__concat" a b
    if !tm.isNil then callOne tm [a, b] (metaSite origin "concat")
    else if x.isSome then failType origin "concatenate" b lb
    else failType origin "concatenate" a la

/-- The length of a value. -/
def length (origin : Origin) (v : Value) (label : Option Label) : Task Value := do
  match v with
  | .str s => return .int (Int64.ofNat s.size)
  | _ =>
    let tm ← read (·.metamethod v "__len")
    if !tm.isNil then callOne tm [v, v] (metaSite origin "len")
    else match v with
      | .table id => return .int (Int64.ofNat (← read fun m => (m.table id).length))
      | _ => failType origin "get length of" v label

/-- The result of an operator on two operands. -/
def binary (origin : Origin) (op : Binary) (a b : Value) (la lb : Option Label) : Task Value := do
  match op with
  | .eq => return .bool (← equal origin a b)
  | .ne => return .bool !(← equal origin a b)
  | .lt => return .bool (← below origin a b)
  | .le => return .bool (← upTo origin a b)
  | .gt => return .bool (← below origin b a)
  | .ge => return .bool (← upTo origin b a)
  | .concat => concat origin a b la lb
  | _ => arith origin op a b la lb

/-- The result of an operator on one operand. -/
def unary (origin : Origin) (op : Unary) (a : Value) (label : Option Label) : Task Value := do
  let meta_ (event : String) (failure : Task Value) : Task Value := do
    let tm ← read (·.metamethod a ("__" ++ event))
    if tm.isNil then failure else callOne tm [a, a] (metaSite origin event)
  match op with
  | .length => length origin a label
  | .negate =>
    match a with
    | .int n => return .int (-n)
    | .float x => return .float (-x)
    | _ => meta_ "unm" (failType origin "perform arithmetic on" a label)
  | .complement =>
    match toInt? a with
    | some n => return .int (~~~n)
    | none => meta_ "bnot" (failArith origin .band a a label label)

/-! ### Texts -/

/-- How values that have no text of their own are told apart. -/
def addressOf (kind id : Nat) : String :=
  let digits := Number.hexChars 0 (0x550000000000 + kind * 0x100000000 + (id + 1) * 32)
  "0x" ++ String.ofList digits

/-- The text of a value without metamethods. -/
def plainText (m : Mem) (v : Value) : ByteArray :=
  let named (kind id : Nat) : ByteArray :=
    joinBytes [m.typeName v, bytes ": ", bytes (addressOf kind id)]
  match v with
  | .nil => bytes "nil"
  | .bool b => bytes (if b then "true" else "false")
  | .str s => s
  | .table id => named 1 id
  | .func id => named 2 id
  | .thread id => named 3 id
  | .failure id => named 4 id
  | .file id => named 5 id
  | n => (numberText n).getD ByteArray.empty

/-- The text of a value as programs see it, by its metamethod if it has one. -/
def text (origin : Origin) (v : Value) : Task ByteArray := do
  let tm ← read (·.metamethod v "__tostring")
  if tm.isNil then read (plainText · v)
  else
    let r ← callOne tm [v] { deep := true, fixed := true }
    match toBytes? r with
    | some s => return s
    | none => fail origin "'__tostring' must return a string"

end Task

end LuaSession.Lua
