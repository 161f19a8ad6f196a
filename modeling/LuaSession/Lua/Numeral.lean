import LuaSession.Lua.Value
import LuaSession.Number.Decimal

/-!
# Numerals

How numbers are written and which strings are numbers. An integer is written in decimal, a double
with 14 significant digits, and with `.0` when it would look like an integer. A decimal numeral
without point and exponent is an integer if it fits and a double otherwise; a hexadecimal one is
taken modulo `2 ^ 64`.
-/

namespace LuaSession.Lua

open LuaSession.Number

/-- The text of a double before the point is added. -/
def floatChars (x : Float) : List Char :=
  match reading x with
  | .nan => ['-', 'n', 'a', 'n']
  | .infinite negative => (if negative then ['-'] else []) ++ ['i', 'n', 'f']
  | .finite negative m => (if negative then ['-'] else []) ++ m.general 14 false

/-- The text of a number. -/
def numberText : Value → Option ByteArray
  | .int n => some (bytesOfChars (intChars n.toInt))
  | .float x =>
    let cs := floatChars x
    if cs.all fun c => c.isDigit || c == '-' then some (bytesOfChars (cs ++ ['.', '0']))
    else some (bytesOfChars cs)
  | _ => none

/-- The bytes that count as blank in numerals. -/
def isSpaceByte (b : UInt8) : Bool :=
  b == 0x20 || (0x09 ≤ b && b ≤ 0x0D)

/-- A byte as a character. -/
def byteChar (b : UInt8) : Char := Char.ofNat b.toNat

/-- The digits at the beginning, by a reading of digits. -/
def digitRun (value? : Char → Option Nat) : List UInt8 → List Nat × List UInt8
  | [] => ([], [])
  | b :: r =>
    match value? (byteChar b) with
    | some d => let (ds, rest) := digitRun value? r; (d :: ds, rest)
    | none => ([], b :: r)

/-- The number with these digits in a base. -/
def ofBase (base : Nat) (ds : List Nat) : Nat :=
  ds.foldl (fun n d => n * base + d) 0

/-- An exponent after its mark: a sign and at least one digit. -/
def exponent? (s : List UInt8) : Option (Int × List UInt8) :=
  let (negative, s) := match s with
    | 0x2D :: r => (true, r)
    | 0x2B :: r => (false, r)
    | _ => (false, s)
  match digitRun digitValue? s with
  | ([], _) => none
  | (ds, rest) => some (if negative then -(ofDigits ds : Int) else ofDigits ds, rest)

/-- Digits with a point among them: the digits before it, those after it and the rest. -/
def pointed (value? : Char → Option Nat) (s : List UInt8) : List Nat × List Nat × Bool × List UInt8 :=
  let (whole, rest) := digitRun value? s
  match rest with
  | 0x2E :: r =>
    let (frac, rest) := digitRun value? r
    (whole, frac, true, rest)
  | _ => (whole, [], false, rest)

/-- Whether the rest is blank. -/
def isBlankRest (s : List UInt8) : Bool := s.all isSpaceByte

/-- A double `n * 2 ^ e`, infinite or zero at once when it is far out of range. -/
def floatOfBinary (n : Nat) (e : Int) : Float :=
  let top : Int := (Nat.log2 n : Int) + e
  if n == 0 || top < -1200 then 0.0
  else if 1200 < top then 1.0 / 0.0
  else Float.scaleB (Float.ofNat n) e

/-- A hexadecimal numeral after its mark. -/
def hexNumeral? (negative : Bool) (s : List UInt8) : Option Value :=
  let (whole, frac, point, rest) := pointed hexValue? s
  if whole.isEmpty && frac.isEmpty then none
  else
    let n := ofBase 16 (whole ++ frac)
    let floating (e : Int) (rest : List UInt8) : Option Value :=
      if isBlankRest rest then
        let x := floatOfBinary n (e - 4 * (frac.length : Int))
        some (.float (if negative then -x else x))
      else none
    match rest with
    | b :: r =>
      if b == 0x70 || b == 0x50 then
        match exponent? r with
        | some (e, rest) => floating e rest
        | none => none
      else if point then floating 0 rest
      else if isBlankRest rest then
        some (.int (if negative then -(Int64.ofNat n) else Int64.ofNat n))
      else none
    | [] =>
      if point then floating 0 []
      else some (.int (if negative then -(Int64.ofNat n) else Int64.ofNat n))

/-- A decimal numeral. -/
def decimalNumeral? (negative : Bool) (s : List UInt8) : Option Value :=
  let (whole, frac, point, rest) := pointed digitValue? s
  if whole.isEmpty && frac.isEmpty then none
  else
    let n := ofDigits (whole ++ frac)
    let floating (e : Int) (rest : List UInt8) : Option Value :=
      if isBlankRest rest then
        let x := floatOfDecimal n (e - (frac.length : Int))
        some (.float (if negative then -x else x))
      else none
    match rest with
    | b :: r =>
      if b == 0x65 || b == 0x45 then
        match exponent? r with
        | some (e, rest) => floating e rest
        | none => none
      else if point then floating 0 rest
      else if isBlankRest rest then integer n
      else none
    | [] => if point then floating 0 [] else integer n
where
  /-- An integer if it fits, and a double otherwise. -/
  integer (n : Nat) : Option Value :=
    if n < 0x8000000000000000 || (negative && n == 0x8000000000000000) then
      some (.int (if negative then -(Int64.ofNat n) else Int64.ofNat n))
    else
      let x := floatOfDecimal n 0
      some (.float (if negative then -x else x))

/-- The number that a string is, if it is one. -/
def numeral? (s : List UInt8) : Option Value :=
  let s := s.dropWhile isSpaceByte
  let (negative, s) := match s with
    | 0x2D :: r => (true, r)
    | 0x2B :: r => (false, r)
    | _ => (false, s)
  match s with
  | 0x30 :: x :: r =>
    if x == 0x78 || x == 0x58 then hexNumeral? negative r else decimalNumeral? negative s
  | _ => decimalNumeral? negative s

/-- The number that a byte string is, if it is one. -/
def numeralOf? (s : ByteArray) : Option Value :=
  numeral? s.data.toList

/-- The number of a value: numbers, and strings that are numerals. -/
def toNumber? : Value → Option Value
  | .int n => some (.int n)
  | .float x => some (.float x)
  | .str s => numeralOf? s
  | _ => none

/-- The double of a number. -/
def toFloat? (v : Value) : Option Float :=
  match toNumber? v with
  | some (.int n) => some (floatOfInt64 n)
  | some (.float x) => some x
  | _ => none

/-- The integer that a number equals. -/
def exactInt? : Value → Option Int64
  | .int n => some n
  | .float x => int64OfFloat? x
  | _ => none

/-- The integer that a value equals, strings included. -/
def toInt? (v : Value) : Option Int64 :=
  (toNumber? v).bind exactInt?

/-- The string of a string or a number. -/
def toBytes? : Value → Option ByteArray
  | .str s => some s
  | v => numberText v

end LuaSession.Lua
