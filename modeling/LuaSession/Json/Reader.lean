import LuaSession.Json.Printer
import LuaSession.Text.Offset

/-!
# Reading JSON

A reader of the whole grammar over the characters that remain, with the position of a fault.
Arrays and objects nest at most `maxDepth` deep. A number that is no integer of 64 bits becomes a
double: its first digits, as many as fit in 64 bits, times or divided by a power of ten, each step
rounded.

A fault holds its cause and how many bytes of the text were left at the place it is reported for;
`ReadError` is the same with the line and column counted out.
-/

namespace LuaSession.Json

open Number

/-- Why a text is not JSON. -/
inductive Cause
  | eofList | eofObject | eofString | eofValue
  | expectedColon | expectedListEnd | expectedObjectEnd | expectedIdent | expectedValue
  | invalidEscape | invalidNumber | numberOutOfRange | controlCharacter
  | keyNotString | loneSurrogate | trailingComma | trailingCharacters | unexpectedHexEnd
  | recursionLimit
  deriving DecidableEq, Repr

/-- The wording of a cause. -/
def Cause.message : Cause → String
  | .eofList => "EOF while parsing a list"
  | .eofObject => "EOF while parsing an object"
  | .eofString => "EOF while parsing a string"
  | .eofValue => "EOF while parsing a value"
  | .expectedColon => "expected `:`"
  | .expectedListEnd => "expected `,` or `]`"
  | .expectedObjectEnd => "expected `,` or `\x7d`"
  | .expectedIdent => "expected ident"
  | .expectedValue => "expected value"
  | .invalidEscape => "invalid escape"
  | .invalidNumber => "invalid number"
  | .numberOutOfRange => "number out of range"
  | .controlCharacter =>
    "control character (\\u0000-\\u001F) found while parsing a string"
  | .keyNotString => "key must be a string"
  | .loneSurrogate => "lone leading surrogate in hex escape"
  | .trailingComma => "trailing comma"
  | .trailingCharacters => "trailing characters"
  | .unexpectedHexEnd => "unexpected end of hex escape"
  | .recursionLimit => "recursion limit exceeded"

/-- A cause, and the number of bytes left where it is reported. -/
structure Fault where
  cause : Cause
  left : Nat
  deriving DecidableEq, Repr

/-- A fault at the beginning of the rest. -/
def failAt {α : Type} (cause : Cause) (rest : List Char) : Except Fault α :=
  .error ⟨cause, Text.byteLength rest⟩

/-- A fault at the first byte of the rest, which counts as looked at. -/
def failPeek {α : Type} (cause : Cause) (rest : List Char) : Except Fault α :=
  .error ⟨cause, Text.byteLength rest - 1⟩

/-- The blanks between the tokens of JSON. -/
def isSpace (c : Char) : Bool :=
  c == ' ' || c == '\n' || c == '\t' || c == '\r'

/-- The text from its first character that is no blank. -/
def skip (s : List Char) : List Char :=
  s.dropWhile isSpace

/-! ### Strings -/

/-- The code of four hexadecimal digits. -/
def hex4? (a b c d : Char) : Option Nat :=
  match hexValue? a, hexValue? b, hexValue? c, hexValue? d with
  | some a, some b, some c, some d => some (((a * 16 + b) * 16 + c) * 16 + d)
  | _, _, _, _ => none

/-- The fault of an escape that lacks its four hexadecimal digits. -/
def badHex (rest : List Char) : Fault :=
  let n := Text.byteLength rest
  if n < 4 then ⟨.eofString, 0⟩ else ⟨.invalidEscape, n - 4⟩

/-- The character that a letter after a backslash stands for. -/
def escaped? (c : Char) : Option Char :=
  if c = '"' then some '"'
  else if c = '\\' then some '\\'
  else if c = '/' then some '/'
  else if c = 'b' then some '\x08'
  else if c = 'f' then some '\x0c'
  else if c = 'n' then some '\n'
  else if c = 'r' then some '\r'
  else if c = 't' then some '\t'
  else none

/-- The rest of a string after its opening quote; `acc` holds what was read, the last first. -/
def stringRest (acc : List Char) : List Char → Except Fault (String × List Char)
  | [] => .error ⟨.eofString, 0⟩
  | '"' :: r => .ok (String.ofList acc.reverse, r)
  | '\\' :: 'u' :: a :: b :: c :: d :: r =>
    match hex4? a b c d with
    | none => .error (badHex (a :: b :: c :: d :: r))
    | some n =>
      if 0xDC00 ≤ n && n ≤ 0xDFFF then failAt .loneSurrogate r
      else if n < 0xD800 || 0xDBFF < n then stringRest (Char.ofNat n :: acc) r
      else
        match r with
        | [] => failAt .eofString r
        | '\\' :: 'u' :: e :: f :: g :: h :: r' =>
          match hex4? e f g h with
          | none => .error (badHex (e :: f :: g :: h :: r'))
          | some n' =>
            if n' < 0xDC00 || 0xDFFF < n' then failAt .loneSurrogate r'
            else
              stringRest (Char.ofNat ((n - 0xD800) * 1024 + (n' - 0xDC00) + 0x10000) :: acc) r'
        | ['\\'] => failAt .eofString []
        | '\\' :: 'u' :: r' => .error (badHex r')
        | '\\' :: r' => failPeek .unexpectedHexEnd r'
        | _ => failPeek .unexpectedHexEnd r
  | '\\' :: 'u' :: r => .error (badHex r)
  | ['\\'] => .error ⟨.eofString, 0⟩
  | '\\' :: c :: r =>
    match escaped? c with
    | some e => stringRest (e :: acc) r
    | none => failPeek .invalidEscape (c :: r)
  | c :: r =>
    if c.toNat < 0x20 then failAt .controlCharacter r else stringRest (c :: acc) r

/-! ### Numbers -/

/-- Takes digits into a number for as long as it stays below `2 ^ 64`: the number, and how many
digits were not taken. -/
def absorb : Nat → List Nat → Nat × Nat
  | sig, [] => (sig, 0)
  | sig, d :: ds =>
    if 0x10000000000000000 ≤ sig * 10 + d then (sig, (d :: ds).length) else absorb (sig * 10 + d) ds

/-- The digits at the beginning of a text, and the text after them. -/
def digitSpan : List Char → List Nat × List Char
  | [] => ([], [])
  | c :: r =>
    match digitValue? c with
    | some d => let (ds, rest) := digitSpan r; (d :: ds, rest)
    | none => ([], c :: r)

/-- `x * 10 ^ e` in rounded steps; `none` if it exceeds every double. -/
def scaleSteps : (steps : Nat) → Float → Int → Option Float
  | 0, x, _ => some x
  | steps + 1, x, e =>
    if e.natAbs ≤ 308 then
      if 0 ≤ e then
        let y := x * floatOfDecimal 1 e
        if isFinite y then some y else none
      else some (x / floatOfDecimal 1 e.natAbs)
    else if x == 0 then some x
    else if 0 ≤ e then none
    else scaleSteps steps (x / floatOfDecimal 1 308) (e + 308)

/-- The double of a significand and a power of ten. -/
def double (negative : Bool) (sig : Nat) (e : Int) (rest : List Char) :
    Except Fault (Json × List Char) :=
  match scaleSteps 4 (Float.ofNat sig) e with
  | some x => .ok (.float (if negative then -x else x), rest)
  | none => failAt .numberOutOfRange rest

/-- Takes the digits of an exponent for as long as it stays below `2 ^ 31`; `none` when it does
not, with the rest after the digit that was too much. -/
def absorbExponent : Nat → List Char → Option Nat × List Char
  | e, [] => (some e, [])
  | e, c :: r =>
    match digitValue? c with
    | some d => if 0x80000000 ≤ e * 10 + d then (none, r) else absorbExponent (e * 10 + d) r
    | none => (some e, c :: r)

/-- The digits of an exponent, its sign read. -/
def exponentDigits (negative : Bool) (sig : Nat) (e : Int) (down : Bool) (s : List Char) :
    Except Fault (Json × List Char) :=
  match s with
  | [] => .error ⟨.eofValue, 0⟩
  | c :: _ =>
    match digitValue? c with
    | none => failPeek .invalidNumber s
    | some _ =>
      match absorbExponent 0 s with
      | (some k, rest) => double negative sig (if down then e - k else e + k) rest
      | (none, rest) =>
        if sig != 0 && !down then failAt .numberOutOfRange rest
        else .ok (.float (if negative then -0.0 else 0.0), (digitSpan rest).2)

/-- The part of a number after its digits: an exponent, or nothing. -/
def exponentPart (negative : Bool) (sig : Nat) (e : Int) (s : List Char) :
    Except Fault (Json × List Char) :=
  match s with
  | c :: r =>
    if c == 'e' || c == 'E' then
      match r with
      | '+' :: r' => exponentDigits negative sig e false r'
      | '-' :: r' => exponentDigits negative sig e true r'
      | _ => exponentDigits negative sig e false r
    else double negative sig e s
  | [] => double negative sig e s

/-- The part of a number after its whole digits, of which `dropped` found no place. -/
def fractionPart (negative : Bool) (sig dropped : Nat) (s : List Char) :
    Except Fault (Json × List Char) :=
  match s with
  | '.' :: r =>
    match digitSpan r with
    | ([], []) => failPeek .eofValue []
    | ([], rest) => failPeek .invalidNumber rest
    | (ds, rest) =>
      let (sig', left) := absorb sig ds
      exponentPart negative sig' ((dropped : Int) - ((ds.length - left : Nat) : Int)) rest
  | c :: _ =>
    if c == 'e' || c == 'E' || dropped != 0 then exponentPart negative sig dropped s
    else if negative then
      if sig == 0 || 0x8000000000000000 < sig then .ok (.float (-(Float.ofNat sig)), s)
      else .ok (.int (-(sig : Int)), s)
    else .ok (.int sig, s)
  | [] =>
    if dropped != 0 then double negative sig dropped s
    else if negative then
      if sig == 0 || 0x8000000000000000 < sig then .ok (.float (-(Float.ofNat sig)), s)
      else .ok (.int (-(sig : Int)), s)
    else .ok (.int sig, s)

/-- A number whose sign was read. -/
def number (negative : Bool) (s : List Char) : Except Fault (Json × List Char) :=
  match s with
  | [] => .error ⟨.eofValue, 0⟩
  | '0' :: r =>
    match r with
    | d :: _ =>
      if (digitValue? d).isSome then failPeek .invalidNumber r else fractionPart negative 0 0 r
    | [] => fractionPart negative 0 0 r
  | s =>
    match digitSpan s with
    | ([], _) => failPeek .invalidNumber s
    | (ds, rest) =>
      let (sig, dropped) := absorb 0 ds
      fractionPart negative sig dropped rest

/-! ### Values -/

/-- The rest of a fixed word. -/
def word (value : Json) : (expected : List Char) → List Char → Except Fault (Json × List Char)
  | [], s => .ok (value, s)
  | _ :: _, [] => .error ⟨.eofValue, 0⟩
  | e :: es, c :: r => if c = e then word value es r else failPeek .expectedIdent (c :: r)

/-- The elements of an array after the first, read by `read`; `fuel` bounds their number. -/
def moreItems (read : List Char → Except Fault (Json × List Char)) :
    (fuel : Nat) → (acc : List Json) → List Char → Except Fault (Json × List Char)
  | 0, _, s => failPeek .expectedListEnd s
  | fuel + 1, acc, s =>
    match skip s with
    | [] => .error ⟨.eofList, 0⟩
    | ']' :: r => .ok (.arr acc.reverse, r)
    | ',' :: r =>
      match skip r with
      | [] => .error ⟨.eofValue, 0⟩
      | ']' :: r' => failPeek .trailingComma (']' :: r')
      | s' => do
        let (v, rest) ← read s'
        moreItems read fuel (v :: acc) rest
    | s' => failPeek .expectedListEnd s'

/-- The rest of an array after its opening bracket. -/
def items (read : List Char → Except Fault (Json × List Char)) (s : List Char) :
    Except Fault (Json × List Char) :=
  match skip s with
  | [] => .error ⟨.eofList, 0⟩
  | ']' :: r => .ok (.arr [], r)
  | s' => do
    let (v, rest) ← read s'
    moreItems read (rest.length + 1) [v] rest

/-- A field from its key's opening quote on. -/
def member (read : List Char → Except Fault (Json × List Char)) (s : List Char) :
    Except Fault ((String × Json) × List Char) := do
  match s with
  | '"' :: r =>
    let (key, rest) ← stringRest [] r
    match skip rest with
    | [] => .error ⟨.eofObject, 0⟩
    | ':' :: r' =>
      let (v, rest') ← read r'
      pure ((key, v), rest')
    | s' => failPeek .expectedColon s'
  | s => failPeek .keyNotString s

/-- The fields of an object after the first. -/
def moreFields (read : List Char → Except Fault (Json × List Char)) :
    (fuel : Nat) → (acc : List (String × Json)) → List Char → Except Fault (Json × List Char)
  | 0, _, s => failPeek .expectedObjectEnd s
  | fuel + 1, acc, s =>
    match skip s with
    | [] => .error ⟨.eofObject, 0⟩
    | '\x7d' :: r => .ok (.obj acc, r)
    | ',' :: r =>
      match skip r with
      | [] => .error ⟨.eofValue, 0⟩
      | '\x7d' :: r' => failPeek .trailingComma ('\x7d' :: r')
      | s' => do
        let ((k, v), rest) ← member read s'
        moreFields read fuel (insertField k v acc) rest
    | s' => failPeek .expectedObjectEnd s'

/-- The rest of an object after its opening brace. -/
def fields (read : List Char → Except Fault (Json × List Char)) (s : List Char) :
    Except Fault (Json × List Char) :=
  match skip s with
  | [] => .error ⟨.eofObject, 0⟩
  | '\x7d' :: r => .ok (.obj [], r)
  | s' => do
    let ((k, v), rest) ← member read s'
    moreFields read (rest.length + 1) (insertField k v []) rest

/-- A value, in which arrays and objects nest at most `depth` deep. -/
def value : (depth : Nat) → List Char → Except Fault (Json × List Char)
  | depth, s =>
    match skip s with
    | [] => .error ⟨.eofValue, 0⟩
    | 'n' :: r => word .null ['u', 'l', 'l'] r
    | 't' :: r => word (.bool true) ['r', 'u', 'e'] r
    | 'f' :: r => word (.bool false) ['a', 'l', 's', 'e'] r
    | '-' :: r => number true r
    | '"' :: r => do
      let (t, rest) ← stringRest [] r
      pure (.str t, rest)
    | '[' :: r =>
      match depth with
      | 0 => failPeek .recursionLimit ('[' :: r)
      | depth + 1 => items (value depth) r
    | '\x7b' :: r =>
      match depth with
      | 0 => failPeek .recursionLimit ('\x7b' :: r)
      | depth + 1 => fields (value depth) r
    | c :: r =>
      if (digitValue? c).isSome then number false (c :: r) else failPeek .expectedValue (c :: r)

/-- The greatest depth of nesting. -/
def maxDepth : Nat := 127

/-- The value that the whole text is. -/
def parseAll (s : List Char) : Except Fault Json := do
  let (v, rest) ← value maxDepth s
  match skip rest with
  | [] => pure v
  | s' => failPeek .trailingCharacters s'

/-! ### Positions -/

/-- A cause with the line and the column, in bytes, of its place. -/
structure ReadError where
  cause : Cause
  line : Nat
  column : Nat
  deriving DecidableEq, Repr

/-- The wording of a fault with its place. -/
def ReadError.message (e : ReadError) : String :=
  s!"{e.cause.message} at line {e.line} column {e.column}"

/-- Line and column of a byte offset: `line` and `column` count what was passed. -/
def locate (line column : Nat) : (offset : Nat) → List Char → Nat × Nat
  | _, [] => (line, column)
  | offset, c :: r =>
    if offset < c.utf8Size then (line, column + offset)
    else if c = '\n' then locate (line + 1) 0 (offset - 1) r
    else locate line (column + c.utf8Size) (offset - c.utf8Size) r

/-- The fault of a text with its place counted out. -/
def Fault.inText (f : Fault) (s : List Char) : ReadError :=
  let (line, column) := locate 1 0 (Text.byteLength s - f.left) s
  ⟨f.cause, line, column⟩

/-- Reads a text as JSON. -/
def parse (s : List Char) : Except ReadError Json :=
  match parseAll s with
  | .ok v => .ok v
  | .error f => .error (f.inText s)

end LuaSession.Json
