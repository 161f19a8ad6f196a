import LuaSession.Lua.Arguments
import LuaSession.Lua.Match

/-!
# Formats

Texts made after a format. A conversion has flags, a width and a precision of up to two digits each,
and a letter; which flags it may have depends on the letter.
-/

namespace LuaSession.Lua.Format

open LuaSession.Number LuaSession.Lua.Task

/-- A conversion: its flags, its least width and its precision. -/
structure Spec where
  left : Bool := false
  plus : Bool := false
  space : Bool := false
  alternate : Bool := false
  zero : Bool := false
  width : Nat := 0
  precision : Option Nat := none

/-- The conversion with the flag of a character. -/
def Spec.flag (s : Spec) (c : Char) : Spec :=
  match c with
  | '-' => { s with left := true }
  | '+' => { s with plus := true }
  | ' ' => { s with space := true }
  | '#' => { s with alternate := true }
  | '0' => { s with zero := true }
  | _ => s

/-- The number at the beginning, of up to two digits, and the rest. -/
def twoDigits (cs : List Char) : Option Nat × List Char :=
  let ds := (cs.take 2).takeWhile Char.isDigit
  (if ds.isEmpty then none else some (ofDigits (ds.filterMap digitValue?)), cs.drop ds.length)

/-- Reads a conversion, without its percent sign and its letter; `none` if it is not well formed. -/
def spec? (cs : List Char) (flags : String) (precise : Bool) : Option Spec :=
  let marks := cs.takeWhile flags.toList.contains
  let rest := cs.drop marks.length
  let s := marks.foldl Spec.flag {}
  if rest.head? == some '0' then none
  else
    let (width, rest) := twoDigits rest
    let s := { s with width := width.getD 0 }
    match rest with
    | '.' :: r =>
      if precise then
        let (p, rest) := twoDigits r
        if rest.isEmpty then some { s with precision := some (p.getD 0) } else none
      else none
    | [] => some s
    | _ => none

/-- A sign and a body, filled to the width: with zeros after the sign or with blanks. -/
def fill (s : Spec) (sign body : List Char) (zeros : Bool) : List Char :=
  let n := s.width - (sign.length + body.length)
  if s.left then sign ++ body ++ List.replicate n ' '
  else if zeros && s.zero then sign ++ List.replicate n '0' ++ body
  else List.replicate n ' ' ++ sign ++ body

/-- The sign of a number. -/
def signOf (s : Spec) (negative : Bool) : List Char :=
  if negative then ['-'] else if s.plus then ['+'] else if s.space then [' '] else []

/-- At least `precision` digits; none for zero with precision zero. -/
def withPrecision (s : Spec) (isZero : Bool) (ds : List Char) : List Char :=
  match s.precision with
  | some p => if isZero && p == 0 then [] else List.replicate (p - ds.length) '0' ++ ds
  | none => ds

/-- A signed integer. -/
def signed (s : Spec) (n : Int) : List Char :=
  fill s (signOf s (n < 0)) (withPrecision s (n == 0) (natChars n.natAbs)) s.precision.isNone

/-- The octal digits of a natural number. -/
def octalChars (n : Nat) : List Char := ((digitsRev 6 (n + 1) n).reverse).map digitChar

/-- An integer as a number without sign, by a letter. -/
def unsigned (s : Spec) (letter : Char) (n : Int) : List Char :=
  let n := (n % 0x10000000000000000).toNat
  let body (ds : List Char) : List Char := withPrecision s (n == 0) ds
  match letter with
  | 'o' =>
    let ds := body (octalChars n)
    fill s [] (if s.alternate && ds.head? != some '0' then '0' :: ds else ds) s.precision.isNone
  | 'x' => fill s (if s.alternate && n != 0 then ['0', 'x'] else []) (body (hexChars 0 n))
      s.precision.isNone
  | 'X' => fill s (if s.alternate && n != 0 then ['0', 'X'] else [])
      ((body (hexChars 0 n)).map Char.toUpper) s.precision.isNone
  | _ => fill s [] (body (natChars n)) s.precision.isNone

/-- A double, by a letter. -/
def real (s : Spec) (letter : Char) (x : Float) : List Char :=
  let upper := letter.isUpper
  let cased (cs : List Char) : List Char := if upper then cs.map Char.toUpper else cs
  let p := s.precision.getD 6
  match reading x with
  | .nan => fill s (signOf s true) (cased ['n', 'a', 'n']) false
  | .infinite negative => fill s (signOf s negative) (cased ['i', 'n', 'f']) false
  | .finite negative m =>
    match letter.toLower with
    | 'f' => fill s (signOf s negative) (m.fixed p s.alternate) true
    | 'e' => fill s (signOf s negative) (cased (m.scientific p s.alternate)) true
    | 'a' =>
      let cs := cased (m.hexadecimal s.precision s.alternate)
      fill s (signOf s negative ++ cs.take 2) (cs.drop 2) true
    | _ => fill s (signOf s negative) (cased (m.general p s.alternate)) true

/-- Bytes cut to the precision and filled to the width. -/
def padded (s : Spec) (content : ByteArray) : ByteArray :=
  let content := match s.precision with
    | some p => sliceBytes content 0 p
    | none => content
  let blanks := repeatBytes (bytes " ") ByteArray.empty (s.width - content.size) ByteArray.empty
  if s.left then content ++ blanks else blanks ++ content

/-- A string as it is written in programs. -/
def quoted : List UInt8 → List UInt8
  | [] => []
  | b :: r =>
    if b == 0x22 || b == 0x5C || b == 0x0A then 0x5C :: b :: quoted r
    else if Match.isControl b then
      let ds := natChars b.toNat
      let ds := if (r.head?.map Token.isDigitByte).getD false then
          List.replicate (3 - ds.length) '0' ++ ds
        else ds
      0x5C :: (ds.map fun c => c.toUInt8) ++ quoted r
    else b :: quoted r

/-- A double as it is written in programs, exactly. -/
def literalFloat (x : Float) : List Char :=
  match reading x with
  | .nan => "(0/0)".toList
  | .infinite negative => (if negative then "-1e9999" else "1e9999").toList
  | .finite negative m => (if negative then ['-'] else []) ++ m.hexadecimal none false

/-- A value as it is written in programs, if there is such a form. -/
def literal? : Value → Option ByteArray
  | .nil => some (bytes "nil")
  | .bool b => some (bytes (if b then "true" else "false"))
  | .int n =>
    if n == Int64.minValue then some (bytes "0x8000000000000000")
    else some (bytesOfChars (intChars n.toInt))
  | .float x => some (bytesOfChars (literalFloat x))
  | .str s => some (bytes "\"" ++ ofByteList (quoted s.data.toList) ++ bytes "\"")
  | _ => none

/-- The flags, the width and the precision at the beginning of a conversion. -/
def isSpecByte (b : UInt8) : Bool :=
  "-+ #0123456789.".toList.contains (byteChar b)

/-- Raises that a conversion is none. -/
def failSpec {α : Type} (c : Call) (form : List Char) : Task α :=
  c.fail ("invalid conversion specification: '%" ++ String.ofList form ++ "'")

/-- One conversion of argument `n`. -/
def convert (c : Call) (n : Nat) (form : List Char) (letter : Char) : Task ByteArray := do
  let read (flags : String) (precise : Bool) : Task Spec :=
    match spec? form flags precise with
    | some s => pure s
    | none => failSpec c (form ++ [letter])
  match letter with
  | 'c' =>
    let code ← c.int n
    let s ← read "-" false
    return padded s (ofByteList [UInt8.ofNat (code % 256).toNat])
  | 'd' | 'i' =>
    let i ← c.int n
    let s ← read "-+0 " true
    return bytesOfChars (signed s i)
  | 'u' =>
    let i ← c.int n
    let s ← read "-0" true
    return bytesOfChars (unsigned s 'u' i)
  | 'o' | 'x' | 'X' =>
    let i ← c.int n
    let s ← read "-#0" true
    return bytesOfChars (unsigned s letter i)
  | 'a' | 'A' | 'e' | 'E' | 'f' | 'F' | 'g' | 'G' =>
    let s ← read "-+#0 " true
    let x ← c.float n
    return bytesOfChars (real s letter x)
  | 'p' =>
    let s ← read "-" false
    let shown ← match c.arg n with
      | .table _ | .func _ | .thread _ | .failure _ | .file _ => do
        let t ← Task.read (plainText · (c.arg n))
        let digits := (t.data.toList.reverse.takeWhile (· != 0x20)).reverse
        pure (ofByteList digits)
      | _ => pure (bytes "(null)")
    return padded s shown
  | 'q' =>
    unless form.isEmpty do c.fail "specifier '%q' cannot have modifiers"
    match literal? (c.arg n) with
    | some s => return s
    | none => c.failArg n (bytes "value has no literal form")
  | 's' =>
    let t ← text c.site.spot (c.arg n)
    if form.isEmpty then return t
    else if t.data.contains 0 then c.failArg n (bytes "string contains zeros")
    else
      let s ← read "-" true
      if s.precision.isNone && 100 ≤ t.size then return t else return padded s t
  | _ => c.fail ("invalid conversion '%" ++ String.ofList (form ++ [letter]) ++ "' to 'format'")

/-- The rest of a text after a format; `n` is the number of the last argument used. -/
def render (c : Call) : (fuel : Nat) → (s : List UInt8) → (n : Nat) → (acc : ByteArray) →
    Task ByteArray
  | 0, _, _, acc => pure acc
  | fuel + 1, s, n, acc =>
    match s with
    | [] => pure acc
    | 0x25 :: 0x25 :: r => render c fuel r n (acc.push 0x25)
    | 0x25 :: r => do
      let form := r.takeWhile isSpecByte
      let rest := r.drop form.length
      if !c.has (n + 1) then
        c.failArg (n + 1) (bytes "no value")
      if 22 ≤ form.length + 1 then c.fail "invalid format string to 'format'"
      match rest with
      | [] => c.fail ("invalid conversion '%" ++ String.ofList (form.map byteChar) ++ "' to 'format'")
      | b :: rest =>
        let t ← convert c (n + 1) (form.map byteChar) (byteChar b)
        render c fuel rest (n + 1) (acc ++ t)
    | b :: r => render c fuel r n (acc.push b)

/-- The text after the format that is the first argument. -/
def run (c : Call) : Task (List Value) := do
  let s ← c.string 1
  let bs := s.data.toList
  return [.str (← render c (bs.length + 1) bs 1 ByteArray.empty)]

end LuaSession.Lua.Format
