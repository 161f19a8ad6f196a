import LuaSession.Lua.Arguments

/-!
# The UTF-8 library

Characters in byte strings. The codes have up to 31 bits; the strict reading takes only those that
are characters.
-/

namespace LuaSession.Lua

open LuaSession.Lua.Task

namespace Utf8Fn

/-- The functions under the names that programs find. -/
def all : List (String × Utf8Fn) :=
  [("char", .char), ("codepoint", .codepoint), ("codes", .codes), ("len", .len), ("offset", .offset)]

/-- A pattern for one character. -/
def charPattern : ByteArray :=
  ofByteList [0x5B, 0x00, 0x2D, 0x7F, 0xC2, 0x2D, 0xFD, 0x5D, 0x5B, 0x80, 0x2D, 0xBF, 0x5D, 0x2A]

/-- Whether a byte goes on with a character. -/
def continues (b : UInt8) : Bool := b &&& 0xC0 == 0x80

/-- The last `n` bytes of the form of a code. -/
def tailOf : (n : Nat) → (code : Nat) → List UInt8
  | 0, _ => []
  | n + 1, code => UInt8.ofNat (0x80 + code / Nat.pow 64 n % 64) :: tailOf n code

/-- The bytes of a code. -/
def encode (code : Nat) : List UInt8 :=
  if code < 0x80 then [UInt8.ofNat code]
  else if code < 0x800 then UInt8.ofNat (0xC0 + code / 64) :: tailOf 1 code
  else if code < 0x10000 then UInt8.ofNat (0xE0 + code / 0x1000) :: tailOf 2 code
  else if code < 0x200000 then UInt8.ofNat (0xF0 + code / 0x40000) :: tailOf 3 code
  else if code < 0x4000000 then UInt8.ofNat (0xF8 + code / 0x1000000) :: tailOf 4 code
  else UInt8.ofNat (0xFC + code / 0x40000000) :: tailOf 5 code

/-- How many bytes follow a first byte, and the part of the code in it. -/
def leading? (b : UInt8) : Option (Nat × Nat) :=
  if b < 0x80 then some (0, b.toNat)
  else if b < 0xC0 then none
  else if b < 0xE0 then some (1, b.toNat - 0xC0)
  else if b < 0xF0 then some (2, b.toNat - 0xE0)
  else if b < 0xF8 then some (3, b.toNat - 0xF0)
  else if b < 0xFC then some (4, b.toNat - 0xF8)
  else if b < 0xFE then some (5, b.toNat - 0xFC)
  else none

/-- The code that `n` more bytes complete, and the place after them. -/
def readTail (s : ByteArray) : (n : Nat) → (i : Nat) → (code : Nat) → Option (Nat × Nat)
  | 0, i, code => some (code, i)
  | n + 1, i, code =>
    match s.data[i]? with
    | some b => if continues b then readTail s n (i + 1) (code * 64 + (b.toNat - 0x80)) else none
    | none => none

/-- The least code that needs so many more bytes. -/
def leastCode : Nat → Nat
  | 0 => 0
  | 1 => 0x80
  | 2 => 0x800
  | 3 => 0x10000
  | 4 => 0x200000
  | _ => 0x4000000

/-- The code at a place, counted from 0, and the place after it. -/
def decodeAt? (s : ByteArray) (i : Nat) (lax : Bool) : Option (Nat × Nat) :=
  match (s.data[i]?).bind leading? with
  | none => none
  | some (n, first) =>
    match readTail s n (i + 1) first with
    | none => none
    | some (code, next) =>
      if code < leastCode n then none
      else if !lax && (0x10FFFF < code || (0xD800 ≤ code && code ≤ 0xDFFF)) then none
      else some (code, next)

/-- A place counted from the end if it is negative. -/
def fromEnd (i : Int) (size : Nat) : Int :=
  if 0 ≤ i then i else if (size : Int) < -i then 0 else size + i + 1

/-- Whether the byte at a place goes on with a character. -/
def continuesAt (s : ByteArray) (i : Int) : Bool :=
  0 ≤ i && ((s.data[i.toNat]?).map continues).getD false

/-- The number of characters from a place on that begin up to `last`, or the place of a fault. -/
def countFrom (s : ByteArray) (lax : Bool) (last : Int) : (fuel : Nat) → (i n : Nat) →
    Except Nat Nat
  | 0, _, n => .ok n
  | fuel + 1, i, n =>
    if last < i then .ok n
    else
      match decodeAt? s i lax with
      | some (_, next) => countFrom s lax last fuel next (n + 1)
      | none => .error i

/-- The codes of the characters from a place on that begin before `stop`; none at a fault. -/
def codesFrom (s : ByteArray) (lax : Bool) (stop : Int) : (fuel : Nat) → (i : Nat) →
    Option (List Nat)
  | 0, _ => some []
  | fuel + 1, i =>
    if stop ≤ i then some []
    else
      match decodeAt? s i lax with
      | some (code, next) => (codesFrom s lax stop fuel next).map (code :: ·)
      | none => none

/-- The place back from `i` up to which bytes go on with a character. -/
def backFrom (s : ByteArray) : (fuel : Nat) → (i : Int) → Int
  | 0, i => i
  | fuel + 1, i => if 0 < i && continuesAt s i then backFrom s fuel (i - 1) else i

/-- The place on from `i` from which bytes no longer go on with a character. -/
def onFrom (s : ByteArray) : (fuel : Nat) → (i : Int) → Int
  | 0, i => i
  | fuel + 1, i => if continuesAt s i then onFrom s fuel (i + 1) else i

/-- The place of the character `n` characters back from `i`, and how many are missing. -/
def stepBack (s : ByteArray) : (fuel : Nat) → (n : Nat) → (i : Int) → Nat × Int
  | 0, n, i => (n, i)
  | fuel + 1, n, i =>
    if n == 0 || i ≤ 0 then (n, i)
    else stepBack s fuel (n - 1) (backFrom s (s.size + 1) (i - 1))

/-- The place of the character `n` characters on from `i`, and how many are missing. -/
def stepOn (s : ByteArray) : (fuel : Nat) → (n : Nat) → (i : Int) → Nat × Int
  | 0, n, i => (n, i)
  | fuel + 1, n, i =>
    if n == 0 || (s.size : Int) ≤ i then (n, i)
    else stepOn s fuel (n - 1) (onFrom s (s.size + 1) (i + 1))

/-- Runs a function. -/
def run (f : Utf8Fn) (c : Call) : Task (List Value) := do
  match f with
  | .char =>
    let parts ← (List.range c.args.length).mapM fun i => do
      let n ← c.int (i + 1)
      if n < 0 || 0x7FFFFFFF < n then c.failArg (i + 1) (bytes "value out of range")
      return encode n.toNat
    return [.str (ofByteList parts.flatten)]
  | .codepoint =>
    let s ← c.string 1
    let first := fromEnd (← c.intOr 2 1) s.size
    let last := fromEnd (← c.intOr 3 first) s.size
    if first < 1 then c.failArg 2 (bytes "out of bounds")
    if (s.size : Int) < last then c.failArg 3 (bytes "out of bounds")
    if last < first then return []
    match codesFrom s (c.arg 4).truthy last (s.size + 1) (first - 1).toNat with
    | some found => return found.map .ofNat
    | none => c.fail "invalid UTF-8 code"
  | .codes =>
    let s ← c.string 1
    if continuesAt s 0 then c.failArg 1 (bytes "invalid UTF-8 code")
    return [← newBuiltin (.utf8 (.codesStep (c.arg 2).truthy)), .str s, .int 0]
  | .codesStep lax =>
    let s ← c.string 1
    let i := (toInt? (c.arg 2)).getD 0
    let i := if i.toInt < 0 then s.size else i.toInt.toNat
    let place := if i < s.size then (onFrom s (s.size + 1) i).toNat else i
    if s.size ≤ place then return []
    match decodeAt? s place lax with
    | some (code, next) =>
      if continuesAt s next then c.fail "invalid UTF-8 code"
      return [.ofNat (place + 1), .ofNat code]
    | none => c.fail "invalid UTF-8 code"
  | .len =>
    let s ← c.string 1
    let first := fromEnd (← c.intOr 2 1) s.size
    let last := fromEnd (← c.intOr 3 (-1)) s.size
    if first < 1 || (s.size : Int) < first - 1 then
      c.failArg 2 (bytes "initial position out of bounds")
    if (s.size : Int) < last then c.failArg 3 (bytes "final position out of bounds")
    match countFrom s (c.arg 4).truthy (last - 1) (s.size + 1) (first - 1).toNat 0 with
    | .ok n => return [.ofNat n]
    | .error i => return [.nil, .ofNat (i + 1)]
  | .offset =>
    let s ← c.string 1
    let n ← c.int 2
    let start := fromEnd (← c.intOr 3 (if 0 < n then 1 else s.size + 1)) s.size - 1
    if start < 0 || (s.size : Int) < start then c.failArg 3 (bytes "position out of bounds")
    if n == 0 then return [.ofInt (backFrom s (s.size + 1) start + 1)]
    if continuesAt s start then c.fail "initial position is a continuation byte"
    let (missing, place) :=
      if n < 0 then stepBack s (s.size + 1) (-n).toNat start
      else stepOn s (s.size + 1) (n - 1).toNat start
    return [if missing == 0 then .ofInt (place + 1) else .nil]

end Utf8Fn

end LuaSession.Lua
