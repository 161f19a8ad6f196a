import LuaSession.Lua.Value

/-!
# Syntax

Programs with their variables resolved. Every variable declared in a function has a slot of its own;
a variable of an enclosing function is reached through the captures of the function. A name that is
declared nowhere is a field of the variable `_ENV`.
-/

namespace LuaSession.Lua

/-- Where a function finds a variable: in a slot of its own or among its captures. -/
inductive Place
  | slot (i : Nat)
  | captured (i : Nat)
  deriving DecidableEq, Repr, Inhabited

/-- The operators on one operand, apart from `not`. -/
inductive Unary
  | negate | length | complement
  deriving DecidableEq, Repr

/-- The operators on two operands, apart from `and` and `or`. -/
inductive Binary
  | add | sub | mul | mod | pow | div | idiv
  | band | bor | bxor | shl | shr
  | concat
  | eq | ne | lt | le | gt | ge
  deriving DecidableEq, Repr

mutual

/-- An expression. A line is the one that messages name. -/
inductive Expr
  | nil
  | bool (b : Bool)
  | int (n : Int64)
  | float (x : Float)
  | str (s : ByteArray)
  | varargs
  | var (place : Place) (name : String)
  | index (table key : Expr) (line : Nat)
  | call (f : Expr) (args : List Expr) (line : Nat)
  | invoke (object : Expr) (method : String) (args : List Expr) (line : Nat)
  | function (f : Proto)
  | unary (op : Unary) (a : Expr) (line : Nat)
  | not (a : Expr)
  | binary (op : Binary) (a b : Expr) (line : Nat)
  | and (a b : Expr)
  | or (a b : Expr)
  | paren (a : Expr)
  | construct (fields : List Field) (line : Nat)

/-- A field of a table constructor. -/
inductive Field
  | item (value : Expr)
  | pair (key value : Expr)

/-- What can be assigned to. -/
inductive Target
  | var (place : Place)
  | index (table key : Expr) (line : Nat)

/-- A statement. -/
inductive Stat
  | call (e : Expr)
  | assign (targets : List Target) (values : List Expr)
  | declare (slots : List Nat) (values : List Expr)
  | closing (slot : Nat) (name : String) (line : Nat) (rest : Block)
  | scope (body : Block)
  | whileDo (condition : Expr) (body : Block)
  | repeatUntil (body : Block) (condition : Expr)
  | ifElse (condition : Expr) (yes no : Block)
  | forRange (slot : Nat) (start limit step : Expr) (body : Block) (line : Nat)
  | forIn (slots : List Nat) (values : List Expr) (body : Block) (line : Nat)
  | leaveLoop
  | goto (label : String)
  | giveBack (values : List Expr)
  | giveCall (f : Expr) (args : List Expr) (line : Nat)
  | giveInvoke (object : Expr) (method : String) (args : List Expr) (line : Nat)

/-- Statements in a row, and for each label among them the number of statements before it. -/
inductive Block
  | mk (stats : List Stat) (labels : List (String × Nat))

/-- A function: the slots of its parameters, whether it takes more arguments, the number of slots,
which of them are captured by inner functions, where its captures come from in the enclosing
function, its body, and the name of the chunk that it stands in. -/
inductive Proto
  | mk (params : List Nat) (takesMore : Bool) (slots : Nat) (shared : Array Bool)
      (captures : List Place) (body : Block) (chunk : ByteArray)

end

namespace Proto

/-- The slots of the parameters. -/
def params : Proto → List Nat
  | .mk ps .. => ps

/-- Whether the function takes more arguments than it has parameters. -/
def takesMore : Proto → Bool
  | .mk _ more .. => more

/-- The number of slots. -/
def slots : Proto → Nat
  | .mk _ _ n .. => n

/-- Which slots are captured by inner functions. -/
def shared : Proto → Array Bool
  | .mk _ _ _ s .. => s

/-- Where the captures come from in the enclosing function. -/
def captures : Proto → List Place
  | .mk _ _ _ _ cs .. => cs

/-- The name of the chunk. -/
def chunk : Proto → ByteArray
  | .mk _ _ _ _ _ _ c => c

end Proto

namespace Block

/-- The empty block. -/
def empty : Block := .mk [] []

end Block

instance : Inhabited Expr := ⟨.nil⟩
instance : Inhabited Block := ⟨Block.empty⟩
instance : Inhabited Proto := ⟨.mk [] false 0 #[] [] Block.empty ByteArray.empty⟩

/-- What a value is called in messages: the kind of thing and its name. -/
abbrev Label := String × ByteArray

/-- What the value of an expression is called in messages, if it has a name: a variable, a field or
a constant. A field of `_ENV` is a global. -/
def Expr.label? : Expr → Option Label
  | .var (.slot _) name => some ("local", bytes name)
  | .var (.captured _) name => some ("upvalue", bytes name)
  | .str s => some ("constant", s)
  | .index (.var _ name) (.str key) _ =>
    some (if name == "_ENV" then "global" else "field", key)
  | .index _ (.str key) _ => some ("field", key)
  | .index _ (.int n) _ =>
    some ("field", bytes (if 0 ≤ n.toInt && n.toInt ≤ 255 then "integer index" else "?"))
  | .index (.var _ "_ENV") _ _ => some ("global", bytes "?")
  | .index _ _ _ => some ("field", bytes "?")
  | .paren e => e.label?
  | _ => none

/-- Whether an expression may have any number of values. -/
def Expr.isOpen : Expr → Bool
  | .call .. | .invoke .. | .varargs => true
  | _ => false

/-- Whether an expression is a call. -/
def Expr.isCall : Expr → Bool
  | .call .. | .invoke .. => true
  | _ => false

end LuaSession.Lua
