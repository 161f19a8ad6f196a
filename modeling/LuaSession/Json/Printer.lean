import LuaSession.Json.Basic
import LuaSession.Number.Decimal

/-!
# The written form of JSON values

Compact: no blanks. In strings the quote, the backslash and the control characters are escaped and
nothing else. A double is written with the fewest digits that read back to it, positionally from
the power -5 to the power 15 of its first digit and with a signed exponent beyond.
-/

namespace LuaSession.Json

open Number

/-- The written form of a character inside a string. -/
def escapeChar (c : Char) : List Char :=
  if c = '"' then ['\\', '"']
  else if c = '\\' then ['\\', '\\']
  else if c = '\x08' then ['\\', 'b']
  else if c = '\t' then ['\\', 't']
  else if c = '\n' then ['\\', 'n']
  else if c = '\x0c' then ['\\', 'f']
  else if c = '\r' then ['\\', 'r']
  else if c.toNat < 0x20 then '\\' :: 'u' :: hexChars 4 c.toNat
  else [c]

/-- The written form of a string. -/
def quote (s : List Char) : List Char :=
  '"' :: (s.flatMap escapeChar ++ ['"'])

/-- The written form of a positive magnitude. -/
def magnitudeChars (m : Magnitude) : List Char :=
  if m.mantissa == 0 then ['0', '.', '0']
  else
    let d := m.shortest
    if -5 ≤ d.exponent && d.exponent ≤ 15 then d.positional true
    else
      d.pointed ++ 'e' :: (if d.exponent < 0 then '-' else '+') :: natChars d.exponent.natAbs

/-- The written form of a double; what is no finite number is written as null. -/
def floatChars (x : Float) : List Char :=
  match reading x with
  | .finite negative m => if negative then '-' :: magnitudeChars m else magnitudeChars m
  | _ => ['n', 'u', 'l', 'l']

mutual

/-- The written form of a value. -/
def chars : Json → List Char
  | .null => ['n', 'u', 'l', 'l']
  | .bool true => ['t', 'r', 'u', 'e']
  | .bool false => ['f', 'a', 'l', 's', 'e']
  | .int n => intChars n
  | .float x => floatChars x
  | .str s => quote s.toList
  | .arr items => '[' :: itemChars true items
  | .obj fields => '\x7b' :: fieldChars true fields

/-- The rest of an array, after its opening bracket or after an element. -/
def itemChars (first : Bool) : List Json → List Char
  | [] => [']']
  | v :: rest => (if first then [] else [',']) ++ (chars v ++ itemChars false rest)

/-- The rest of an object, after its opening brace or after a field. -/
def fieldChars (first : Bool) : List (String × Json) → List Char
  | [] => ['\x7d']
  | (k, v) :: rest =>
    (if first then [] else [',']) ++ (quote k.toList ++ ':' :: (chars v ++ fieldChars false rest))

end

/-- The written form of a value, as a string. -/
def print (v : Json) : String :=
  String.ofList (chars v)

/-- A string as it is, and any other value in its written form. -/
def display : Json → String
  | .str s => s
  | v => v.print

end LuaSession.Json
