import LuaSession.Lua.Numeral
import LuaSession.Lua.Syntax

/-!
# Arithmetic

The operations on numbers. Integers have 64 bits and wrap around; an operation on an integer and a
double is one on doubles. Division and remainder round toward minus infinity.
-/

namespace LuaSession.Lua

/-- Why an operation on integers has no result. -/
inductive IntFault
  | divisionByZero
  | moduloByZero
  deriving DecidableEq, Repr

/-- The wording of a fault. -/
def IntFault.message : IntFault → String
  | .divisionByZero => "attempt to divide by zero"
  | .moduloByZero => "attempt to perform 'n%0'"

/-- The quotient of two integers, rounded toward minus infinity. -/
def floorDiv (a b : Int64) : Int64 :=
  if b == -1 then -a
  else
    let q := a / b
    if ((a < 0) != (b < 0)) && a % b != 0 then q - 1 else q

/-- The remainder that goes with `floorDiv`: it has the sign of the divisor. -/
def floorMod (a b : Int64) : Int64 :=
  if b == -1 then 0
  else
    let r := a % b
    if r != 0 && ((r < 0) != (b < 0)) then r + b else r

/-- The remainder of two doubles, with the sign of the divisor. -/
def floatMod (a b : Float) : Float :=
  let r := Number.remainder a b
  if (r > 0.0 && b < 0.0) || (r < 0.0 && b > 0.0) then r + b else r

/-- The power of two doubles. -/
def floatPow (a b : Float) : Float :=
  if b == 2.0 then a * a else Float.pow a b

/-- The bits of an integer moved to the left, or to the right if the number of places is negative;
zeros come in from both sides. -/
def shiftLeft (a places : Int64) : Int64 :=
  let n := places.toInt
  if n ≤ -64 || 64 ≤ n then 0
  else if n < 0 then Int64.ofUInt64 (a.toUInt64 >>> UInt64.ofNat (-n).toNat)
  else Int64.ofUInt64 (a.toUInt64 <<< UInt64.ofNat n.toNat)

/-- The result of an operation on two integers, for the operations that stay within them. -/
def intArith (op : Binary) (a b : Int64) : Option (Except IntFault Value) :=
  match op with
  | .add => some (.ok (.int (a + b)))
  | .sub => some (.ok (.int (a - b)))
  | .mul => some (.ok (.int (a * b)))
  | .idiv => some (if b == 0 then .error .divisionByZero else .ok (.int (floorDiv a b)))
  | .mod => some (if b == 0 then .error .moduloByZero else .ok (.int (floorMod a b)))
  | _ => none

/-- The result of an operation on two doubles. -/
def floatArith (op : Binary) (a b : Float) : Float :=
  match op with
  | .add => a + b
  | .sub => a - b
  | .mul => a * b
  | .div => a / b
  | .idiv => (a / b).floor
  | .mod => floatMod a b
  | .pow => floatPow a b
  | _ => 0.0

/-- The double of a number that is not taken from a string. -/
def plainFloat? : Value → Option Float
  | .int n => some (floatOfInt64 n)
  | .float x => some x
  | _ => none

/-- The result of an operation on two numbers; `none` if an operand is none. -/
def numberArith (op : Binary) (a b : Value) : Option (Except IntFault Value) :=
  match a, b with
  | .int x, .int y =>
    match intArith op x y with
    | some r => some r
    | none => some (.ok (.float (floatArith op (floatOfInt64 x) (floatOfInt64 y))))
  | _, _ =>
    match plainFloat? a, plainFloat? b with
    | some x, some y => some (.ok (.float (floatArith op x y)))
    | _, _ => none

/-- The result of an operation on the bits of two integers. -/
def bitArith (op : Binary) (a b : Int64) : Int64 :=
  match op with
  | .band => a &&& b
  | .bor => a ||| b
  | .bxor => a ^^^ b
  | .shl => shiftLeft a b
  | .shr => shiftLeft a (-b)
  | _ => 0

/-- Whether an operation works on bits. -/
def Binary.isBitwise : Binary → Bool
  | .band | .bor | .bxor | .shl | .shr => true
  | _ => false

/-- The result of `op` on two numbers, on their bits where the operation asks for that and both are
integers. -/
def computeNumbers (op : Binary) (a b : Value) : Option (Except IntFault Value) :=
  if op.isBitwise then
    match toInt? a, toInt? b with
    | some x, some y => some (.ok (.int (bitArith op x y)))
    | _, _ => none
  else numberArith op a b

/-! ### Order -/

/-- The least integer not below a double, if it has 64 bits. -/
def ceilInt? (x : Float) : Option Int64 := int64OfFloat? x.ceil

/-- The greatest integer not above a double, if it has 64 bits. -/
def floorInt? (x : Float) : Option Int64 := int64OfFloat? x.floor

/-- Whether an integer is below a double. -/
def intBelowFloat (n : Int64) (x : Float) : Bool :=
  match ceilInt? x with
  | some c => n < c
  | none => x > 0.0

/-- Whether an integer is not above a double. -/
def intUpToFloat (n : Int64) (x : Float) : Bool :=
  match floorInt? x with
  | some f => n ≤ f
  | none => x > 0.0

/-- Whether a double is below an integer. -/
def floatBelowInt (x : Float) (n : Int64) : Bool :=
  match floorInt? x with
  | some f => f < n
  | none => x < 0.0

/-- Whether a double is not above an integer. -/
def floatUpToInt (x : Float) (n : Int64) : Bool :=
  match ceilInt? x with
  | some c => c ≤ n
  | none => x < 0.0

/-- Whether a value is below another, for two numbers or two strings. -/
def below? : Value → Value → Option Bool
  | .int a, .int b => some (a < b)
  | .float a, .float b => some (a < b)
  | .int a, .float b => some (intBelowFloat a b)
  | .float a, .int b => some (floatBelowInt a b)
  | .str a, .str b => some (compareBytes a b == .lt)
  | _, _ => none

/-- Whether a value is not above another, for two numbers or two strings. -/
def upTo? : Value → Value → Option Bool
  | .int a, .int b => some (a ≤ b)
  | .float a, .float b => some (a ≤ b)
  | .int a, .float b => some (intUpToFloat a b)
  | .float a, .int b => some (floatUpToInt a b)
  | .str a, .str b => some (compareBytes a b != .gt)
  | _, _ => none

end LuaSession.Lua
