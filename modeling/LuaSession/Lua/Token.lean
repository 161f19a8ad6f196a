import LuaSession.Lua.Numeral

/-!
# Tokens

A source text is cut into tokens, each with the line on which it ends and the spelling by which
messages quote it. What cannot be a token becomes a fault, which is raised when a reader comes to it.
-/

namespace LuaSession.Lua

/-- A token. -/
inductive Token
  | name (s : String)
  | reserved (s : String)
  | symbol (s : String)
  | int (n : Int64)
  | float (x : Float)
  | str (s : ByteArray)
  | byte (b : UInt8)
  | eof
  | fault (message : String)
  deriving Inhabited

/-- A token at its place. `spelling` is how messages show it, with its quotes. -/
structure Lexeme where
  token : Token
  line : Nat
  spelling : ByteArray
  deriving Inhabited

namespace Token

/-- The words that are no names. -/
def reservedWords : List String :=
  ["and", "break", "do", "else", "elseif", "end", "false", "for", "function", "goto", "if", "in",
   "local", "nil", "not", "or", "repeat", "return", "then", "true", "until", "while"]

/-- The symbols, the longest first. -/
def symbols : List String :=
  ["...", "..", "==", ">=", "<=", "~=", "<<", ">>", "//", "::", "+", "-", "*", "/", "%", "^", "#",
   "&", "~", "|", "<", ">", "=", "(", ")", "\x7b", "\x7d", "[", "]", ";", ":", ",", "."]

/-- Whether a byte begins a name. -/
def isNameStart (b : UInt8) : Bool :=
  (0x41 ≤ b && b ≤ 0x5A) || (0x61 ≤ b && b ≤ 0x7A) || b == 0x5F

/-- Whether a byte is a decimal digit. -/
def isDigitByte (b : UInt8) : Bool := 0x30 ≤ b && b ≤ 0x39

/-- Whether a byte goes on a name. -/
def isNameByte (b : UInt8) : Bool := isNameStart b || isDigitByte b

/-- Whether a byte ends a line. -/
def isLineEnd (b : UInt8) : Bool := b == 0x0A || b == 0x0D

/-- The digit of a byte in hexadecimal. -/
def hexByte? (b : UInt8) : Option Nat := Number.hexValue? (byteChar b)

/-- The bytes as they are shown in messages: in quotes, up to the first zero byte. -/
def quotedBytes (bs : List UInt8) : ByteArray :=
  bytes "'" ++ ofByteList (bs.takeWhile (· != 0)) ++ bytes "'"

/-- How messages show a text in quotes. -/
def quotedName (s : String) : ByteArray := bytes ("'" ++ s ++ "'")

/-- How messages show the end of the source. -/
def eofSpelling : ByteArray := bytes "<eof>"

/-- How messages show a byte. -/
def byteSpelling (b : UInt8) : ByteArray :=
  if 0x20 ≤ b && b < 0x7F then quotedBytes [b]
  else bytes "'<\\" ++ bytesOfChars (Number.natChars b.toNat) ++ bytes ">'"

/-- The rest after a line end, which may be of two bytes. -/
def afterLineEnd : List UInt8 → List UInt8
  | 0x0A :: 0x0D :: r => r
  | 0x0D :: 0x0A :: r => r
  | _ :: r => r
  | [] => []

/-- The level of a long bracket whose first bracket has been read: the number of equality signs. -/
def longLevel? (s : List UInt8) : Option Nat :=
  match s.dropWhile (· == 0x3D) with
  | 0x5B :: _ => some (s.takeWhile (· == 0x3D)).length
  | _ => none

/-- The rest after the end of a long bracket, if the text begins with it. -/
def longEnd? (level : Nat) : List UInt8 → Option (List UInt8)
  | 0x5D :: r =>
    if (r.takeWhile (· == 0x3D)).length == level then
      match r.drop level with
      | 0x5D :: rest => some rest
      | _ => none
    else none
  | _ => none

/-- What is between long brackets, reversed, the rest and the line; `none` if there is no end. -/
def longBody (level : Nat) :
    (fuel : Nat) → (s acc : List UInt8) → (line : Nat) → Option (List UInt8 × List UInt8) × Nat
  | 0, _, _, line => (none, line)
  | fuel + 1, s, acc, line =>
    match s with
    | [] => (none, line)
    | b :: r =>
      match longEnd? level s with
      | some rest => (some (acc, rest), line)
      | none =>
        if isLineEnd b then longBody level fuel (afterLineEnd s) (0x0A :: acc) (line + 1)
        else longBody level fuel r (b :: acc) line

/-- What is between long brackets, when what follows the opening bracket is given; a first line end
is dropped. -/
def longText (level : Nat) (s : List UInt8) (line : Nat) :
    Option (List UInt8 × List UInt8) × Nat :=
  match s with
  | b :: _ =>
    if isLineEnd b then longBody level (s.length + 1) (afterLineEnd s) [] (line + 1)
    else longBody level (s.length + 1) s [] line
  | [] => (none, line)

/-! ### Strings -/

/-- What an escape stands for and the rest, or what is wrong with it and the bytes to be shown. -/
abbrev EscapeResult := Except (String × List UInt8) (List UInt8 × List UInt8)

/-- The fault of an escape, shown with the byte at which it was found. -/
def escapeFault (message : String) (shown rest : List UInt8) : EscapeResult :=
  .error (message, shown ++ rest.take 1)

/-- A code of up to `0x7FFFFFFF` in the extended form of UTF-8. -/
def utf8Bytes (n : Nat) : List UInt8 :=
  let tail (k : Nat) : List UInt8 :=
    ((List.range k).reverse).map fun i => UInt8.ofNat (0x80 + n / Nat.pow 64 i % 64)
  if n < 0x80 then [UInt8.ofNat n]
  else if n < 0x800 then UInt8.ofNat (0xC0 + n / 64) :: tail 1
  else if n < 0x10000 then UInt8.ofNat (0xE0 + n / 0x1000) :: tail 2
  else if n < 0x200000 then UInt8.ofNat (0xF0 + n / 0x40000) :: tail 3
  else if n < 0x4000000 then UInt8.ofNat (0xF8 + n / 0x1000000) :: tail 4
  else UInt8.ofNat (0xFC + n / 0x40000000) :: tail 5

/-- An escape of two hexadecimal digits, after its letter. -/
def hexEscape (s : List UInt8) : EscapeResult :=
  match s with
  | a :: r =>
    match hexByte? a with
    | none => escapeFault "hexadecimal digit expected" [0x5C, 0x78] s
    | some h =>
      match r with
      | b :: rest =>
        match hexByte? b with
        | none => escapeFault "hexadecimal digit expected" [0x5C, 0x78, a] r
        | some l => .ok ([UInt8.ofNat (h * 16 + l)], rest)
      | [] => escapeFault "hexadecimal digit expected" [0x5C, 0x78, a] r
  | [] => escapeFault "hexadecimal digit expected" [0x5C, 0x78] s

/-- The digits of a code in braces after the first; `shown` is what has been read, reversed. -/
def codeDigits : (s shown : List UInt8) → (code : Nat) → EscapeResult
  | [], shown, _ => escapeFault "missing '\x7d'" shown.reverse []
  | b :: r, shown, code =>
    match hexByte? b with
    | some d =>
      if code ≤ 0x7FFFFFF then codeDigits r (b :: shown) (code * 16 + d)
      else escapeFault "UTF-8 value too large" shown.reverse (b :: r)
    | none =>
      if b == 0x7D then .ok (utf8Bytes code, r)
      else escapeFault "missing '\x7d'" shown.reverse (b :: r)

/-- An escape of a code in braces, after its letter. -/
def codeEscape (s : List UInt8) : EscapeResult :=
  match s with
  | 0x7B :: r =>
    match r with
    | b :: rest =>
      match hexByte? b with
      | some d => codeDigits rest [b, 0x7B, 0x75, 0x5C] d
      | none => escapeFault "hexadecimal digit expected" [0x5C, 0x75, 0x7B] r
    | [] => escapeFault "hexadecimal digit expected" [0x5C, 0x75, 0x7B] r
  | _ => escapeFault "missing '\x7b'" [0x5C, 0x75] s

/-- An escape of up to three decimal digits. -/
def decimalEscape (s : List UInt8) : EscapeResult :=
  let ds := (s.take 3).takeWhile isDigitByte
  let rest := s.drop ds.length
  let code := ds.foldl (fun n b => n * 10 + (b.toNat - 0x30)) 0
  if code ≤ 255 then .ok ([UInt8.ofNat code], rest)
  else escapeFault "decimal escape too large" (0x5C :: ds) rest

/-- The byte that an escape of one letter stands for. -/
def letterEscape? (b : UInt8) : Option UInt8 :=
  match byteChar b with
  | 'a' => some 7
  | 'b' => some 8
  | 't' => some 9
  | 'n' => some 10
  | 'v' => some 11
  | 'f' => some 12
  | 'r' => some 13
  | '\\' => some 0x5C
  | '"' => some 0x22
  | '\'' => some 0x27
  | _ => none

/-- Drops blanks and counts the lines among them. -/
def skipBlanks : (fuel : Nat) → (s : List UInt8) → (line : Nat) → List UInt8 × Nat
  | 0, s, line => (s, line)
  | fuel + 1, s, line =>
    match s with
    | b :: r =>
      if isLineEnd b then skipBlanks fuel (afterLineEnd s) (line + 1)
      else if isSpaceByte b then skipBlanks fuel r line
      else (s, line)
    | [] => ([], line)

/-- The result of reading a string: its bytes and the rest, or a fault with its spelling. -/
abbrev StringResult := Except (String × ByteArray) (List UInt8 × List UInt8) × Nat

/-- A string up to its quote; `acc` is what has been read, reversed. -/
def stringBody (quote : UInt8) :
    (fuel : Nat) → (s acc : List UInt8) → (line : Nat) → StringResult
  | 0, _, _, line => (.error ("unfinished string", eofSpelling), line)
  | fuel + 1, s, acc, line =>
    let fault (message : String) (shown : List UInt8) : StringResult :=
      (.error (message, quotedBytes (quote :: acc.reverse ++ shown)), line)
    let resume (r : EscapeResult) : StringResult :=
      match r with
      | .ok (bs, rest) => stringBody quote fuel rest (bs.reverse ++ acc) line
      | .error (message, shown) => fault message shown
    match s with
    | [] => (.error ("unfinished string", eofSpelling), line)
    | 0x5C :: r =>
      match r with
      | [] => (.error ("unfinished string", eofSpelling), line)
      | e :: rest =>
        match letterEscape? e with
        | some b => stringBody quote fuel rest (b :: acc) line
        | none =>
          if e == 0x78 then resume (hexEscape rest)
          else if e == 0x75 then resume (codeEscape rest)
          else if e == 0x7A then
            let (rest, line) := skipBlanks (rest.length + 1) rest line
            stringBody quote fuel rest acc line
          else if isLineEnd e then stringBody quote fuel (afterLineEnd r) (0x0A :: acc) (line + 1)
          else if isDigitByte e then resume (decimalEscape r)
          else fault "invalid escape sequence" [0x5C, e]
    | b :: r =>
      if b == quote then (.ok (acc, r), line)
      else if isLineEnd b then fault "unfinished string" []
      else stringBody quote fuel r (b :: acc) line

/-! ### Numerals -/

/-- The bytes of a numeral and the rest: digits, points and exponents with their signs. -/
def numeralRun (mark : UInt8 → Bool) : (s : List UInt8) → List UInt8 × List UInt8
  | [] => ([], [])
  | [b] => if mark b || (hexByte? b).isSome || b == 0x2E then ([b], []) else ([], [b])
  | b :: c :: r =>
    if mark b && (c == 0x2B || c == 0x2D) then
      let (run, rest) := numeralRun mark r
      (b :: c :: run, rest)
    else if mark b || (hexByte? b).isSome || b == 0x2E then
      let (run, rest) := numeralRun mark (c :: r)
      (b :: run, rest)
    else ([], b :: c :: r)

/-- A numeral as it is written, with one letter more when it touches a letter, and the rest. -/
def numeralSpelling (s : List UInt8) : List UInt8 × List UInt8 :=
  let (run, rest) := match s with
    | 0x30 :: x :: r =>
      if x == 0x78 || x == 0x58 then
        let (run, rest) := numeralRun (fun b => b == 0x70 || b == 0x50) r
        (0x30 :: x :: run, rest)
      else numeralRun (fun b => b == 0x65 || b == 0x45) s
    | _ => numeralRun (fun b => b == 0x65 || b == 0x45) s
  match rest with
  | b :: r => if isNameStart b then (run ++ [b], r) else (run, rest)
  | [] => (run, [])

/-! ### Scanning -/

/-- The symbol at the beginning. -/
def symbolAt? (s : List UInt8) : Option (String × List UInt8) :=
  symbols.findSome? fun sym =>
    let bs := (bytes sym).data.toList
    if bs.isPrefixOf s then some (sym, s.drop bs.length) else none

/-- What is next: a token with its spelling and the rest, or only a rest where a comment or a blank
was dropped. -/
inductive Scanned
  | token (t : Token) (spelling : ByteArray) (rest : List UInt8) (line : Nat)
  | skipped (rest : List UInt8) (line : Nat)

/-- Text in long brackets of a level, after the brackets: a string or a comment. -/
def scanLong (isComment : Bool) (level : Nat) (s : List UInt8) (line : Nat) : Scanned :=
  match longText level s line with
  | (none, last) =>
    let what := if isComment then "comment" else "string"
    let from_ := String.ofList (Number.natChars line)
    .token (.fault s!"unfinished long {what} (starting at line {from_})") eofSpelling [] last
  | (some (acc, rest), last) =>
    if isComment then .skipped rest last
    else
      let content := acc.reverse
      let marks := List.replicate level (0x3D : UInt8)
      .token (.str (ofByteList content))
        (quotedBytes (0x5B :: marks ++ 0x5B :: content ++ 0x5D :: marks ++ [0x5D])) rest last

/-- A comment, after its two dashes. -/
def scanComment (s : List UInt8) (line : Nat) : Scanned :=
  let short := Scanned.skipped (s.dropWhile fun b => !isLineEnd b) line
  match s with
  | 0x5B :: r =>
    match longLevel? r with
    | some level => scanLong true level (r.drop (level + 1)) line
    | none => short
  | _ => short

/-- A string, after its quote. -/
def scanString (quote : UInt8) (s : List UInt8) (line : Nat) : Scanned :=
  match stringBody quote (s.length + 1) s [] line with
  | (.error (message, spelling), last) => .token (.fault message) spelling [] last
  | (.ok (acc, rest), last) =>
    let content := acc.reverse
    .token (.str (ofByteList content)) (quotedBytes (quote :: content ++ [quote])) rest last

/-- A numeral. -/
def scanNumeral (s : List UInt8) (line : Nat) : Scanned :=
  let (run, rest) := numeralSpelling s
  let spelling := quotedBytes run
  match numeral? run with
  | some (.int n) => .token (.int n) spelling rest line
  | some (.float x) => .token (.float x) spelling rest line
  | _ => .token (.fault "malformed number") spelling [] line

/-- A name or a reserved word. -/
def scanName (s : List UInt8) (line : Nat) : Scanned :=
  let run := s.takeWhile isNameByte
  let word := String.ofList (run.map byteChar)
  let t := if reservedWords.contains word then Token.reserved word else .name word
  .token t (quotedBytes run) (s.dropWhile isNameByte) line

/-- Scans from a byte on. -/
def scan (b : UInt8) (r : List UInt8) (line : Nat) : Scanned :=
  let s := b :: r
  let other : Scanned :=
    match symbolAt? s with
    | some (sym, rest) => .token (.symbol sym) (quotedName sym) rest line
    | none => .token (.byte b) (byteSpelling b) r line
  if isLineEnd b then .skipped (afterLineEnd s) (line + 1)
  else if isSpaceByte b then .skipped r line
  else if isNameStart b then scanName s line
  else if isDigitByte b then scanNumeral s line
  else if b == 0x22 || b == 0x27 then scanString b r line
  else if b == 0x2D && r.head? == some 0x2D then scanComment (r.drop 1) line
  else if b == 0x2E && (r.head?.any isDigitByte) then scanNumeral s line
  else if b == 0x5B then
    match longLevel? r with
    | some level => scanLong false level (r.drop (level + 1)) line
    | none =>
      if r.head? == some 0x3D then
        .token (.fault "invalid long string delimiter")
          (quotedBytes (0x5B :: r.takeWhile (· == 0x3D))) [] line
      else other
  else other

/-- The lexemes of a text from a line on. -/
def lexFrom : (fuel : Nat) → (s : List UInt8) → (line : Nat) → List Lexeme
  | 0, _, line => [⟨.eof, line, eofSpelling⟩]
  | fuel + 1, s, line =>
    match s with
    | [] => [⟨.eof, line, eofSpelling⟩]
    | b :: r =>
      match scan b r line with
      | .skipped rest last => lexFrom fuel rest last
      | .token (.fault message) spelling _ last => [⟨.fault message, last, spelling⟩]
      | .token t spelling rest last => ⟨t, last, spelling⟩ :: lexFrom fuel rest last

/-- The lexemes of a source text, up to its end or the first fault. -/
def lex (source : ByteArray) : List Lexeme :=
  let s := source.data.toList
  lexFrom (s.length + 1) s 1

end Token

end LuaSession.Lua
