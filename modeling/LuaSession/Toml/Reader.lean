import LuaSession.Number.Binary
import LuaSession.Toml.Document
import LuaSession.Toml.Scan

/-!
# Reading documents

The grammar of documents, as scanners. What each scanner calls itself and what it says it expects
is part of the answer for a text that is no document, and so is where it stops to try others: a
scanner is cut where enough was read to know what was meant.
-/

namespace LuaSession.Toml

open LuaSession.Number Scan

/-! ### Blanks, line ends and comments -/

/-- Whether a character is a blank within a line. -/
def isBlank (c : Char) : Bool :=
  c == ' ' || c == '\t'

/-- Whether a character may stand in a comment. -/
def isCommentChar (c : Char) : Bool :=
  c == '\t' || (' ' ≤ c && c != '\x7f')

/-- Blanks. -/
def blanks : Scan Unit := do
  let _ ← run isBlank

/-- A line end. -/
def newline : Scan Unit :=
  (do let _ ← char '\n') <|> literal ['\r', '\n']

/-- A comment, up to the end of its line. -/
def comment : Scan Unit := do
  let _ ← char '#'
  let _ ← run isCommentChar

/-- The end of a line or of the text. -/
def lineEnd : Scan Unit := newline <|> eof

/-- What may follow on a line. -/
def lineRest : Scan Unit := do
  blanks
  let _ ← opt comment
  lineEnd

/-- What may follow on a line, after something that needs nothing more. -/
def expectLineRest : Scan Unit := expect ["newline", "`#`"] lineRest

/-- Blanks, and at most `fuel` line ends with comments before them. -/
def fillingUpTo : (fuel : Nat) → Scan Unit
  | 0 => blanks
  | fuel + 1 => do
    blanks
    match ← next? with
    | some '#' => do comment; newline; fillingUpTo fuel
    | some '\n' | some '\r' => do newline; fillingUpTo fuel
    | _ => pure ()

/-- Blanks, and line ends with comments before them. -/
def filling : Scan Unit := fun c => fillingUpTo c.rest.length c

/-! ### Strings -/

/-- Whether a character may stand as it is between double quotes. -/
def isBasicChar (c : Char) : Bool :=
  isCommentChar c && c != '"' && c != '\\'

/-- Whether a character may stand between single quotes. -/
def isLiteralChar (c : Char) : Bool :=
  isCommentChar c && c != '\''

/-- A character by its number of `width` hexadecimal digits. -/
def hexEscape (width : Nat) (what : String) : Scan Char :=
  label what (cut (do
    let start ← place
    let ds ← runBetween width width fun c => (hexValue? c).isSome
    let n := ds.foldl (fun a c => a * 16 + (hexValue? c).getD 0) 0
    if n.isValidChar then return Char.ofNat n else refuseAt start))
where
  /-- The number of no character. -/
  refuseAt (start : Cursor) : Scan Char := refuse start "value is out of range"

/-- Stops at a letter that escapes nothing: after it, or before it where it takes several bytes. -/
def noEscape (letter : Char) (before : Cursor) : Scan Char := fun _ =>
  .stop {
    offset := if letter.utf8Size = 1 then before.offset + 1 else before.offset
    labels := ["escape sequence"]
    expected := ["`b`", "`f`", "`n`", "`r`", "`t`", "`u`", "`U`", "`\\`", "`\"`"] }

/-- A character that is written with a backslash. -/
def escape : Scan Char := do
  let start ← place
  let _ ← char '\\'
  let before ← place
  match ← next? with
  | none => miss start
  | some c =>
    let _ ← satisfy fun _ => true
    match c with
    | 'b' => return '\x08'
    | 'f' => return '\x0c'
    | 'n' => return '\n'
    | 'r' => return '\r'
    | 't' => return '\t'
    | 'u' => hexEscape 4 "unicode 4-digit hex code"
    | 'U' => hexEscape 8 "unicode 8-digit hex code"
    | '\\' => return '\\'
    | '"' => return '"'
    | c => noEscape c before
where
  /-- Nothing is escaped at the end of the text. -/
  miss (start : Cursor) : Scan Char := fun _ => .miss { offset := start.offset }

/-- A string on one line between double quotes. -/
def basicString : Scan String := do
  let _ ← char '"'
  let parts ← many (run1 isBasicChar <|> (return [← escape]))
  let _ ← label "basic string" (cut (char '"'))
  return String.ofList parts.flatten

/-- A string on one line between single quotes. -/
def literalString : Scan String :=
  label "literal string" do
    let _ ← char '\''
    let cs ← run isLiteralChar
    let _ ← cut (char '\'')
    return String.ofList cs

/-- Three quotes. -/
def delimiter (quote : Char) : Scan Unit := literal [quote, quote, quote]

/-- One or two quotes, with something after them that is not taken. -/
def innerQuotes (quote : Char) (after : Scan Unit) : Scan (List Char) :=
  (do literal [quote, quote]; ahead after; return [quote, quote])
    <|> (do literal [quote]; ahead after; return [quote])

/-- Something that is no quote. -/
def noQuote (quote : Char) : Scan Unit := do
  let _ ← satisfy (· != quote)

/-- A line end after a backslash, with all blanks and line ends after it. -/
def escapedNewline : Scan Unit := do
  let _ ← char '\\'
  blanks
  newline
  let _ ← many ((do let _ ← run1 isBlank) <|> newline)

/-- What stands between the quotes of a string on several lines, between double quotes. -/
def basicPart : Scan (List Char) :=
  run1 isBasicChar
    <|> (do let _ ← many1 escapedNewline; return [])
    <|> (do return [← escape])
    <|> (do newline; return ['\n'])

/-- A string on several lines between double quotes. A line end after the first quotes does not
count. -/
def basicText : Scan String := do
  delimiter '"'
  let _ ← opt newline
  let cs ← cut (do
    let first ← many basicPart
    let more ← many (do
      let quotes ← innerQuotes '"' (noQuote '"')
      return quotes :: (← many basicPart))
    let last ← opt (innerQuotes '"' (delimiter '"'))
    return first.flatten ++ more.flatten.flatten ++ last.getD [])
  label "multiline basic string" (cut (delimiter '"'))
  return String.ofList cs

/-- What stands between the quotes of a string on several lines, between single quotes. -/
def literalPart : Scan (List Char) :=
  run1 isLiteralChar <|> (do newline; return ['\n'])

/-- A string on several lines between single quotes. -/
def literalText : Scan String :=
  label "multiline literal string" do
    delimiter '\''
    let _ ← opt newline
    let cs ← cut (do
      let first ← many literalPart
      let more ← many (do
        let quotes ← innerQuotes '\'' (noQuote '\'')
        return quotes :: (← many1 literalPart))
      let last ← opt (innerQuotes '\'' (delimiter '\''))
      return first.flatten ++ more.flatten.flatten ++ last.getD [])
    cut (delimiter '\'')
    return String.ofList cs

/-- A string. -/
def stringValue : Scan String :=
  basicText <|> basicString <|> literalText <|> literalString

/-! ### Keys -/

/-- How deep arrays and inline tables may stand in each other, and how long a dotted key may be. -/
def depthLimit : Nat := 80

/-- What is said where something is nested too deep. -/
def tooDeep : String := "recursion limit exceeded"

/-- One part of a key. -/
def keyPart : Scan Key := do
  let (name, start, stop) ← located (do
    match ← next? with
    | some '"' => basicString
    | some '\'' => literalString
    | _ => return String.ofList (← run1 isBare))
  return ⟨name, start.offset, stop⟩

/-- The parts of a key with points between them. -/
def dottedKey : Scan (List Key) :=
  checked
    (label "key" (separated (do blanks; let k ← keyPart; blanks; return k) (char '.')))
    fun ks => if ks.length < depthLimit then .ok ks else .error tooDeep

/-! ### Numbers -/

/-- Digits, of which any two may have a low line between them. -/
def digitsFrom (isDigit : Char → Bool) (first : Scan Char) : Scan (List Char) := do
  let d ← first
  let more ← many (satisfy isDigit
    <|> (do let _ ← char '_'; expect ["digit"] (cut (satisfy isDigit))))
  return d :: more

/-- A sign. -/
def sign : Scan (Option Char) :=
  opt (satisfy fun c => c == '+' || c == '-')

/-- A decimal integer: whether it is negative, and its digits. -/
def decimalInteger : Scan (Bool × List Char) :=
  label "integer" do
    let s ← sign
    let ds ← digitsFrom Char.isDigit (satisfy fun c => '1' ≤ c && c ≤ '9')
      <|> (do return [← satisfy Char.isDigit])
    return (s == some '-', ds)

/-- The value of digits. -/
def valueOf (base : Nat) (ds : List Char) : Nat :=
  ds.foldl (fun n c => n * base + (hexValue? c).getD 0) 0

/-- An integer that fits into 64 bits. -/
def fitting (n : Int) : Except String Int :=
  if 0x8000000000000000 ≤ n then .error "number too large to fit in target type"
  else if n < -0x8000000000000000 then .error "number too small to fit in target type"
  else .ok n

/-- An integer in another base, after its mark. -/
def basedInteger (mark : Char) (base : Nat) (isDigit : Char → Bool) (what : String) : Scan Int :=
  cut (checked (label what (do
    literal ['0', mark]
    cut (digitsFrom isDigit (satisfy isDigit))))
    fun ds => fitting (valueOf base ds))

/-- An integer. -/
def integer : Scan Int := do
  let c ← place
  match c.rest with
  | '0' :: 'x' :: _ =>
    basedInteger 'x' 16 (fun c => (hexValue? c).isSome) "hexadecimal integer"
  | '0' :: 'o' :: _ => basedInteger 'o' 8 (fun c => '0' ≤ c && c ≤ '7') "octal integer"
  | '0' :: 'b' :: _ => basedInteger 'b' 2 (fun c => c == '0' || c == '1') "binary integer"
  | _ => do
    let (negative, ds) ← decimalInteger
    let n : Int := valueOf 10 ds
    match fitting (if negative then -n else n) with
    | .ok n => return n
    | .error cause => cut (refuse c cause)

/-- The digits after a point. -/
def fraction : Scan (List Char) := do
  let _ ← char '.'
  expect ["digit"] (cut (digitsFrom Char.isDigit (satisfy Char.isDigit)))

/-- The power of ten after its mark. -/
def exponent : Scan Int := do
  let _ ← satisfy fun c => c == 'e' || c == 'E'
  let s ← sign
  let n : Int := valueOf 10 (← cut (digitsFrom Char.isDigit (satisfy Char.isDigit)))
  return if s == some '-' then -n else n

/-- A number with a point or a power of ten, or both. -/
def decimalFloat : Scan Float := do
  let start ← place
  let (negative, whole) ← decimalInteger
  let (part, e) ← (do return ([], ← exponent)) <|> (do
    let part ← fraction
    return (part, (← opt exponent).getD 0))
  let x := floatOfDecimal (valueOf 10 (whole ++ part)) (e - part.length)
  let x := if negative then -x else x
  if x == 1.0 / 0.0 then tooGreat start else return x
where
  /-- Stops at a number that is greater than all others. -/
  tooGreat (start : Cursor) : Scan Float := fun _ => .stop { offset := start.offset }

/-- What is greater than all numbers. -/
def infinity : Scan Float := do
  literal ['i', 'n', 'f']
  return 1.0 / 0.0

/-- What is no number. -/
def notANumber : Scan Float := do
  literal ['n', 'a', 'n']
  return 0.0 / 0.0

/-- A float. -/
def float : Scan Float :=
  label "floating-point number" (decimalFloat <|> (do
    let s ← sign
    let x ← infinity <|> notANumber
    return if s == some '-' then -x else x))

/-! ### Dates and times -/

/-- A number of some digits within a range. -/
def part (width low high : Nat) : Scan Nat :=
  checked (runBetween width width Char.isDigit) fun ds =>
    let n := valueOf 10 ds
    if low ≤ n && n ≤ high then .ok n else .error "value is out of range"

/-- The number of days of a month. -/
def daysOf (year month : Nat) : Nat :=
  if month == 2 then if year % 4 == 0 && (year % 100 != 0 || year % 400 == 0) then 29 else 28
  else if month == 4 || month == 6 || month == 9 || month == 11 then 30
  else 31

/-- A date. -/
def fullDate : Scan Unit := do
  let year ← part 4 0 9999
  let _ ← char '-'
  let month ← cut (part 2 1 12)
  let _ ← cut (char '-')
  let start ← place
  let day ← cut (part 2 1 31)
  if daysOf year month < day then cut (refuse start "value is out of range")

/-- A time of day. -/
def timeOfDay : Scan Unit := do
  let _ ← part 2 0 23
  let _ ← char ':'
  cut (do
    let _ ← part 2 0 59
    let _ ← char ':'
    let _ ← part 2 0 60
    let _ ← opt (do let _ ← char '.'; run1 Char.isDigit))

/-- How far a time is from that of the zero meridian. -/
def timeOffset : Scan Unit :=
  label "time offset" ((do let _ ← satisfy fun c => c == 'Z' || c == 'z') <|> (do
    let _ ← satisfy fun c => c == '+' || c == '-'
    cut (do
      let _ ← part 2 0 23
      let _ ← char ':'
      let _ ← part 2 0 59)))

/-- A date, a time, or both. -/
def datetime : Scan Unit :=
  label "date-time" (do
    fullDate
    let _ ← opt (do
      let _ ← satisfy fun c => c == 'T' || c == 't' || c == ' '
      timeOfDay
      opt timeOffset))
    <|> label "time" timeOfDay

/-! ### Values -/

/-- What is said where no value begins. -/
def expectString {α : Type} (s : Scan α) : Scan α :=
  expect ["`\"`", "`'`"] (label "string" s)

/-- A word that stands for a value. -/
def word (w : String) : Scan Unit := expectString (literal w.toList)

/-- Whether a number or a date may begin with a character. -/
def beginsNumber (c : Char) : Bool :=
  c == '+' || c == '-' || c.isDigit

/-- The sign between a key and its value. -/
def equals : Scan Unit := do
  let _ ← expect ["`.`", "`=`"] (char '=')

/-- The path and the key of a dotted key. -/
def splitKey (ks : List Key) : Option (List Key × Key) :=
  ks.getLast?.map fun k => (ks.dropLast, k)

/-- A key with its value in braces. -/
def inlineField (value : Scan Node) : Scan (List Key × Key × Node) := do
  let ks ← dottedKey
  let n ← cut (do equals; blanks; let n ← value; blanks; return n)
  match splitKey ks with
  | some (path, k) => return (path, k, n)
  | none => fail

/-- The items of an array, up to its end. -/
def arrayItems (value : Scan Node) : Scan (List Node) := do
  match ← next? with
  | some ']' => return []
  | _ =>
    let items ← opt (separated (do filling; let n ← value; filling; return n) (char ','))
    match items with
    | some _ => let _ ← opt (char ',')
    | none => pure ()
    filling
    return items.getD []

/-- The fields of a table in braces, up to its end. -/
def inlineFields (value : Scan Node) : Scan Table :=
  checked (do
    let fields ← opt (separated (inlineField value) (char ','))
    blanks
    return fields.getD [])
    fun fields => (Table.ofInline fields).mapError Clash.message

/-- A value. The values in it are read by `inner`, if it may hold any. -/
def valueOver (inner : Option (Scan Node)) : Scan Node := do
  let start ← place
  let spanned (f : Span → Node) : Scan Node := do return f ⟨start.offset, (← place).offset⟩
  match ← next?, inner with
  | none, _ => fail
  | some '"', _ | some '\'', _ => do let s ← stringValue; spanned (.string s)
  | some '[', none | some '\x7b', none => refuse start tooDeep
  | some '[', some inner => do
    let _ ← char '['
    let items ← cut (arrayItems inner)
    let _ ← expect ["`]`"] (label "array" (cut (char ']')))
    spanned (.array items)
  | some '\x7b', some inner => do
    let _ ← char '\x7b'
    let t ← cut (inlineFields inner)
    let _ ← expect ["`\x7d`"] (label "inline table" (cut (char '\x7d')))
    spanned fun s => .table t.fields t.form (some s)
  | some '_', _ => do let n ← expect ["leading digit"] integer; spanned (.integer n)
  | some '.', _ => do let x ← expect ["leading digit"] float; spanned (.float x)
  | some 't', _ => do cut (word "true"); spanned (.boolean true)
  | some 'f', _ => do cut (word "false"); spanned (.boolean false)
  | some 'i', _ => do let x ← expectString infinity; spanned (.float x)
  | some 'n', _ => do let x ← expectString notANumber; spanned (.float x)
  | some c, _ =>
    if beginsNumber c then
      (do datetime; spanned .datetime)
        <|> (do let x ← float; spanned (.float x))
        <|> (do let n ← integer; spanned (.integer n))
    else expectString fail

/-- A value in which arrays and tables stand at most `room` deep in each other. -/
def value : (room : Nat) → Scan Node
  | 0 => valueOver none
  | room + 1 => valueOver (some (value room))

/-! ### Documents -/

/-- A line with a key and its value. -/
def field (d : Draft) : Scan Draft :=
  checked (do
    let ks ← dottedKey
    let n ← cut (do equals; blanks; let n ← value (depthLimit - 1); expectLineRest; return n)
    match splitKey ks with
    | some (path, k) => return (path, k, n)
    | none => fail)
    fun (path, k, n) => (d.insert path k n).mapError Clash.message

/-- The header of a table, or of an item of an array of tables, between brackets. -/
def headerLine (d : Draft) (isItem : Bool) : Scan Draft :=
  let brackets (c : Char) := if isItem then [c, c] else [c]
  checked (do
    let (ks, start, stop) ← located (do
      literal (brackets '[')
      let ks ← cut dottedKey
      expect ["`.`", "`" ++ String.ofList (brackets ']') ++ "`"] (cut (literal (brackets ']')))
      return ks)
    cut expectLineRest
    return (ks, (⟨start.offset, stop⟩ : Span)))
    fun (ks, span) => (d.header ks isItem span).mapError Clash.message

/-- A header of either kind. -/
def header (d : Draft) : Scan Draft :=
  label "table header" do
    match (← place).rest with
    | [_] => fail
    | '[' :: '[' :: _ => headerLine d true
    | _ => headerLine d false

/-- One line: a comment, a header, a line end or a key with its value, and blanks after it. -/
def entry (d : Draft) : Scan Draft := do
  let d ← match ← next? with
    | none => fail
    | some '#' => do cut (do comment; lineEnd); return d
    | some '[' => cut (header d)
    | some '\n' | some '\r' => do newline; return d
    | some _ => cut (field d)
  blanks
  return d

/-- All lines; each takes at least one character, so `fuel` lines are enough. -/
def entries : (fuel : Nat) → Draft → Scan Draft
  | 0, d => pure d
  | fuel + 1, d => do
    match ← opt (entry d) with
    | some d => entries fuel d
    | none => return d

/-- A document. -/
def document : Scan Table := do
  let _ ← opt (char '\uFEFF')
  blanks
  let d ← entries ((← place).rest.length + 1) {}
  eof
  match d.complete with
  | .ok t => return t
  | .error c => refuse ⟨[], 0⟩ c.message

end LuaSession.Toml
