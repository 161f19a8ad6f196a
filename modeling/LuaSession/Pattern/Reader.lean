import LuaSession.Pattern.Syntax
import LuaSession.Number.Digits
import LuaSession.Text.Blank
import LuaSession.Unicode.Classes

/-!
# Reading patterns

From the text of a pattern to its tree. Each loop takes at least one character in every round, so
the length of the text bounds all of them.
-/

namespace LuaSession.Pattern

open LuaSession.Number LuaSession.Text

/-- What is left of a pattern, where it begins, whether blanks are skipped, and the names of groups
so far. -/
structure Cursor where
  rest : List Char
  place : Place
  skipsBlank : Bool
  names : List (List Char × Span)

/-- A step of the reader. -/
abbrev Reader := StateT Cursor (Except Fault)

namespace Reader

/-- The place after a character. -/
def after (p : Place) (c : Char) : Place :=
  if c == '\n' then ⟨p.line + 1, 1⟩ else ⟨p.line, p.column + 1⟩

/-- Refuses the pattern. -/
def refuse {α : Type} (cause : Cause) (span : Span) : Reader α :=
  throw ⟨cause, span, none⟩

/-- The next character. -/
def peek : Reader (Option Char) :=
  return (← get).rest.head?

/-- The place of the next character. -/
def here : Reader Place :=
  return (← get).place

/-- The empty span before the next character. -/
def hereSpan : Reader Span :=
  return ⟨(← here), (← here)⟩

/-- The span of the next character. -/
def charSpan : Reader Span := do
  let s ← get
  match s.rest with
  | [] => return ⟨s.place, s.place⟩
  | c :: _ => return ⟨s.place, after s.place c⟩

/-- Whether the end of the pattern is reached. -/
def atEnd : Reader Bool :=
  return (← get).rest.isEmpty

/-- Steps over a character; tells whether there is a next one. -/
def bump : Reader Bool := do
  let s ← get
  match s.rest with
  | [] => return false
  | c :: r =>
    set { s with rest := r, place := after s.place c }
    return !r.isEmpty

/-- The text and place after blanks and comments; `comment` tells that one is open. -/
def blanksFrom (comment : Bool) (p : Place) : List Char → List Char × Place
  | [] => ([], p)
  | c :: r =>
    if comment then blanksFrom (c != '\n') (after p c) r
    else if isBlank c then blanksFrom false (after p c) r
    else if c == '#' then blanksFrom true (after p c) r
    else (c :: r, p)

/-- Steps over blanks and comments where they are skipped. -/
def skipBlanks : Reader Unit :=
  modify fun s =>
    if s.skipsBlank then
      let (rest, place) := blanksFrom false s.place s.rest
      { s with rest, place }
    else s

/-- Steps over a character and the blanks after it; tells whether there is a next one. -/
def bumpBlanks : Reader Bool := do
  if ← bump then
    skipBlanks
    return !(← atEnd)
  else return false

/-- Steps over the characters `expected` if they come next. -/
def bumpIf (expected : List Char) : Reader Bool := do
  let s ← get
  if expected.isPrefixOf s.rest then
    set { s with
      rest := s.rest.drop expected.length, place := expected.foldl after s.place }
    return true
  else return false

/-- The character after the next one. -/
def peekSecond : Reader (Option Char) :=
  return (← get).rest.tail.head?

/-- The character after the next one, blanks skipped where they are. -/
def peekSecondPastBlanks : Reader (Option Char) := do
  let s ← get
  if s.skipsBlank then
    let r := s.rest.tail.dropWhile isBlank
    match r with
    | '#' :: r' => return (r'.dropWhile isBlank).head?
    | _ => return r.head?
  else return s.rest.tail.head?

/-- Takes characters that satisfy `p`, with blanks skipped after each. -/
def takeBlanks (p : Char → Bool) : (fuel : Nat) → List Char → Reader (List Char)
  | 0, acc => return acc.reverse
  | fuel + 1, acc => do
    match ← peek with
    | some c =>
      if p c then
        let _ ← bumpBlanks
        takeBlanks p fuel (c :: acc)
      else return acc.reverse
    | none => return acc.reverse

/-- How many characters are left. -/
def left : Reader Nat :=
  return (← get).rest.length

/-! ### Escapes -/

/-- The characters with a meaning in patterns. -/
def isMeta (c : Char) : Bool :=
  ['\\', '.', '+', '*', '?', '(', ')', '|', '[', ']', '\x7b', '\x7d', '^', '$', '#', '&', '-',
    '~'].contains c

/-- The characters that may be escaped although they need not. -/
def isEscapable (c : Char) : Bool :=
  isMeta c || (c.toNat < 128 && !c.isAlphanum && c != '<' && c != '>')

/-- The number of hexadecimal digits. -/
def hexNumber (ds : List Char) : Nat :=
  ds.foldl (fun n c => n * 16 + (hexValue? c).getD 0) 0

/-- The character with a code given in hexadecimal. -/
def scalar? (ds : List Char) : Option Char :=
  let n := hexNumber ds
  if n < 0xD800 || (0xDFFF < n && n ≤ 0x10FFFF) then some (Char.ofNat n) else none

/-- A fixed number of hexadecimal digits; `first` tells that none was read yet. -/
def hexDigits : (count : Nat) → (first : Bool) → List Char → Reader (List Char)
  | 0, _, acc => return acc.reverse
  | count + 1, first, acc => do
    if !first then
      if !(← bumpBlanks) then refuse .escapeUnexpectedEof (← hereSpan)
    match ← peek with
    | some c =>
      if (hexValue? c).isSome then hexDigits count false (c :: acc)
      else refuse .escapeHexInvalidDigit (← charSpan)
    | none => refuse .escapeUnexpectedEof (← hereSpan)

/-- Hexadecimal digits up to a closing brace, from before each of them. -/
def hexBraced : (fuel : Nat) → List Char → Reader (List Char)
  | 0, acc => return acc.reverse
  | fuel + 1, acc => do
    if ← bumpBlanks then
      match ← peek with
      | some '\x7d' => return acc.reverse
      | some c =>
        if (hexValue? c).isSome then hexBraced fuel (c :: acc)
        else refuse .escapeHexInvalidDigit (← charSpan)
      | none => return acc.reverse
    else return acc.reverse

/-- A character by its code; the escape began at `start` and the next character is its letter. -/
def hexEscape (start : Place) (letter : Char) : Reader Node := do
  if !(← bumpBlanks) then refuse .escapeUnexpectedEof (← hereSpan)
  if (← peek) == some '\x7b' then
    let brace ← here
    let first := (← charSpan).stop
    let ds ← hexBraced ((← left) + 1) []
    if ← atEnd then refuse .escapeUnexpectedEof ⟨brace, ← here⟩
    let stop ← here
    let _ ← bumpBlanks
    if ds.isEmpty then refuse .escapeHexEmpty ⟨brace, ← here⟩
    match scalar? ds with
    | some c => return .literal ⟨⟨start, ← here⟩, c, false⟩
    | none => refuse .escapeHexInvalid ⟨first, stop⟩
  else
    let first ← here
    let count := if letter == 'x' then 2 else if letter == 'u' then 4 else 8
    let ds ← hexDigits count true []
    let _ ← bumpBlanks
    match scalar? ds with
    | some c => return .literal ⟨⟨start, ← here⟩, c, letter == 'x'⟩
    | none => refuse .escapeHexInvalid ⟨first, ← here⟩

/-- A name up to a closing brace, from before each character. -/
def braced : (fuel : Nat) → List Char → Reader (List Char)
  | 0, acc => return acc.reverse
  | fuel + 1, acc => do
    if ← bumpBlanks then
      match ← peek with
      | some '\x7d' => return acc.reverse
      | some c => braced fuel (c :: acc)
      | none => return acc.reverse
    else return acc.reverse

/-- A text cut at the first place where `mark` stands. -/
def cutAt (mark : List Char) : List Char → List Char → Option (List Char × List Char)
  | _, [] => none
  | acc, c :: r =>
    if mark.isPrefixOf (c :: r) then some (acc.reverse, (c :: r).drop mark.length)
    else cutAt mark (c :: acc) r

/-- What a name between braces asks for, and whether its sign negates. -/
def query (name : List Char) : PropertyQuery :=
  match cutAt ['!', '='] [] name with
  | some (p, v) => .value p v
  | none =>
    match cutAt [':'] [] name with
    | some (p, v) => .value p v
    | none =>
      match cutAt ['='] [] name with
      | some (p, v) => .value p v
      | none => .name name

/-- A class of characters by a property. -/
def propertyEscape (start : Place) (negated : Bool) : Reader Node := do
  if !(← bumpBlanks) then refuse .escapeUnexpectedEof (← hereSpan)
  match ← peek with
  | some '\x7b' =>
    let name ← braced ((← left) + 1) []
    if ← atEnd then refuse .escapeUnexpectedEof (← hereSpan)
    let _ ← bump
    return .property ⟨start, ← here⟩ (query name) negated
  | some c =>
    if c == '\\' then refuse .unicodeClassInvalid (← charSpan)
    let _ ← bumpBlanks
    return .property ⟨start, ← here⟩ (.name [c]) negated
  | none => refuse .escapeUnexpectedEof (← hereSpan)

/-- A kind of word boundary between braces; nothing is taken when it must be a repetition. -/
def specialBoundary (start : Place) : Reader (Option Assertion) := do
  let saved ← get
  let brace ← here
  if !(← bumpBlanks) then refuse .specialBoundaryUnexpectedEof ⟨start, ← here⟩
  let contents ← here
  let isName (c : Char) : Bool := c.isAlpha || c == '-'
  match ← peek with
  | some c =>
    if !isName c then
      set saved
      return none
    let name ← takeBlanks isName (← left) []
    if (← peek) != some '\x7d' then refuse .specialBoundaryUnclosed ⟨brace, ← here⟩
    let stop ← here
    let _ ← bump
    match String.ofList name with
    | "start" => return some .wordStart
    | "end" => return some .wordEnd
    | "start-half" => return some .wordStartHalf
    | "end-half" => return some .wordEndHalf
    | _ => refuse .specialBoundaryUnrecognized ⟨contents, stop⟩
  | none => refuse .specialBoundaryUnexpectedEof ⟨start, ← here⟩

/-- What stands after a backslash, which is the next character. -/
def escape : Reader Node := do
  let start ← here
  if !(← bump) then refuse .escapeUnexpectedEof ⟨start, ← here⟩
  match ← peek with
  | none => refuse .escapeUnexpectedEof ⟨start, ← here⟩
  | some c =>
    if c.isDigit then refuse .unsupportedBackreference ⟨start, (← charSpan).stop⟩
    if c == 'x' || c == 'u' || c == 'U' then return ← hexEscape start c
    if c == 'p' || c == 'P' then return ← propertyEscape start (c == 'P')
    let _ ← bump
    let span : Span := ⟨start, ← here⟩
    let letter (kind : Letter) (negated : Bool) : Reader Node :=
      return .letter span kind negated
    let literal (c : Char) : Reader Node := return .literal ⟨span, c, false⟩
    let assertion (kind : Assertion) : Reader Node := return .assertion span kind
    if isEscapable c then return ← literal c
    match c with
    | 'd' => letter .digit false
    | 'D' => letter .digit true
    | 's' => letter .space false
    | 'S' => letter .space true
    | 'w' => letter .word false
    | 'W' => letter .word true
    | 'a' => literal '\x07'
    | 'f' => literal '\x0c'
    | 't' => literal '\t'
    | 'n' => literal '\n'
    | 'r' => literal '\r'
    | 'v' => literal '\x0b'
    | 'A' => assertion .startText
    | 'z' => assertion .endText
    | 'B' => assertion .notWordBoundary
    | '<' => assertion .wordStart
    | '>' => assertion .wordEnd
    | 'b' =>
      if (← peek) == some '\x7b' then
        match ← specialBoundary start with
        | some kind => return .assertion ⟨start, ← here⟩ kind
        | none => assertion .wordBoundary
      else assertion .wordBoundary
    | _ => refuse .escapeUnrecognized span

/-! ### Bracketed classes -/

/-- Items of a class, the last first, and the span they fill. -/
structure Items where
  span : Span
  list : List ClassItem

/-- The items with one more. -/
def Items.push (u : Items) (i : ClassItem) : Items :=
  if u.list.isEmpty then ⟨i.span, [i]⟩ else ⟨⟨u.span.start, i.span.stop⟩, i :: u.list⟩

/-- The operators between the parts of a class. -/
inductive SetOperator
  | inter | diff | symmDiff

/-- The text an inside of a class was read from. -/
def setSpan : ClassSet → Span
  | .items s _ | .inter s .. | .diff s .. | .symmDiff s .. => s

/-- The part read so far: what is pending on the left, joined with the items read since. -/
def joined (pending : Option (SetOperator × ClassSet)) (u : Items) : ClassSet :=
  let right : ClassSet := .items u.span u.list.reverse
  match pending with
  | none => right
  | some (op, l) =>
    let span : Span := ⟨(setSpan l).start, u.span.stop⟩
    match op with
    | .inter => .inter span l right
    | .diff => .diff span l right
    | .symmDiff => .symmDiff span l right

/-- The named class between colons. -/
def posix? : String → Option Posix
  | "alnum" => some .alnum
  | "alpha" => some .alpha
  | "ascii" => some .ascii
  | "blank" => some .blank
  | "cntrl" => some .cntrl
  | "digit" => some .digit
  | "graph" => some .graph
  | "lower" => some .lower
  | "print" => some .print
  | "punct" => some .punct
  | "space" => some .space
  | "upper" => some .upper
  | "word" => some .word
  | "xdigit" => some .xdigit
  | _ => none

/-- A named class such as `[:alpha:]`; nothing is taken when there is none. -/
def posixClass : Reader (Option ClassItem) := do
  let s ← get
  let start ← here
  match s.rest with
  | '[' :: ':' :: r =>
    let (negated, r) := match r with
      | '^' :: r' => (true, r')
      | _ => (false, r)
    let name := r.takeWhile (· != ':')
    match r.drop name.length with
    | ':' :: ']' :: _ =>
      match posix? (String.ofList name) with
      | some kind =>
        let taken := name.length + (if negated then 5 else 4)
        let text := s.rest.take taken
        set { s with rest := s.rest.drop taken, place := text.foldl after s.place }
        return some (.posix ⟨start, ← here⟩ kind negated)
      | none => return none
    | _ => return none
  | _ => return none

/-- Hyphens at the beginning of a class, which stand for themselves. -/
def leadingHyphens (start : Place) : (fuel : Nat) → Items → Reader Items
  | 0, u => return u
  | fuel + 1, u => do
    if (← peek) == some '-' then
      let u := u.push (.literal ⟨← charSpan, '-', false⟩)
      if !(← bumpBlanks) then refuse .classUnclosed ⟨start, start⟩
      leadingHyphens start fuel u
    else return u

/-- The beginning of a class: where it starts, whether it is negated, the characters that stand for
themselves only here, and the span to blame when it is not closed. -/
def classOpen : Reader (Place × Bool × Items × Span) := do
  let start ← here
  if !(← bumpBlanks) then refuse .classUnclosed ⟨start, ← here⟩
  let negated := (← peek) == some '^'
  if negated then
    if !(← bumpBlanks) then refuse .classUnclosed ⟨start, ← here⟩
  let u ← leadingHyphens start ((← left) + 1) ⟨← hereSpan, []⟩
  if u.list.isEmpty && (← peek) == some ']' then
    let u := u.push (.literal ⟨← charSpan, ']', false⟩)
    if !(← bumpBlanks) then refuse .classUnclosed ⟨start, ← here⟩
    return (start, negated, u, ⟨start, ← here⟩)
  return (start, negated, u, ⟨start, ← here⟩)

/-- One character or escape inside a class. -/
def classPrimitive : Reader Node := do
  match ← peek with
  | some '\\' => escape
  | some c =>
    let span ← charSpan
    let _ ← bump
    return .literal ⟨span, c, false⟩
  | none => refuse .classUnclosed (← hereSpan)

/-- A primitive as an item of a class. -/
def asItem : Node → Reader ClassItem
  | .literal l => return .literal l
  | .letter s k n => return .letter s k n
  | .property s q n => return .property s q n
  | n => refuse .classEscapeInvalid n.span

/-- A primitive as the end of a range. -/
def asLiteral : Node → Reader Literal
  | .literal l => return l
  | n => refuse .classRangeLiteral n.span

/-- A character, a class or a range inside a class that began at `opening`. -/
def classRange (opening : Span) : Reader ClassItem := do
  let first ← classPrimitive
  skipBlanks
  if ← atEnd then refuse .classUnclosed opening
  let second ← peekSecondPastBlanks
  if (← peek) != some '-' || second == some ']' || second == some '-' then
    return ← asItem first
  if !(← bumpBlanks) then refuse .classUnclosed opening
  let last ← classPrimitive
  let span : Span := ⟨first.span.start, last.span.stop⟩
  let a ← asLiteral first
  let b ← asLiteral last
  if b.char < a.char then refuse .classRangeInvalid span
  return .range span a b

/-- The inside of a class up to and with its closing bracket. -/
def classBody (opening : Span) :
    (fuel : Nat) → Option (SetOperator × ClassSet) → Items → Reader ClassSet
  | 0, _, _ => refuse .classUnclosed opening
  | fuel + 1, pending, u => do
    skipBlanks
    let second ← peekSecond
    match ← peek with
    | none => refuse .classUnclosed opening
    | some '[' =>
      match ← posixClass with
      | some item => classBody opening fuel pending (u.push item)
      | none =>
        let (start, negated, inner, span) ← classOpen
        let set ← classBody span fuel none inner
        classBody opening fuel pending (u.push (.bracketed ⟨start, ← here⟩ negated set))
    | some ']' =>
      let _ ← bump
      return joined pending u
    | some c =>
      let operator (op : SetOperator) : Reader ClassSet := do
        let _ ← bump
        let _ ← bump
        classBody opening fuel (some (op, joined pending u)) ⟨← hereSpan, []⟩
      if c == '&' && second == some '&' then operator .inter
      else if c == '-' && second == some '-' then operator .diff
      else if c == '~' && second == some '~' then operator .symmDiff
      else
        let item ← classRange opening
        classBody opening fuel pending (u.push item)

/-- A bracketed class, whose opening bracket is the next character. -/
def bracketed : Reader Node := do
  let (start, negated, u, span) ← classOpen
  let set ← classBody span ((← left) + 1) none u
  return .bracketed ⟨start, ← here⟩ negated set

/-! ### Repetitions -/

/-- Refuses a repetition of nothing. -/
def repeated (items : List Node) : Reader (Node × List Node) := do
  match items with
  | [] => refuse .repetitionMissing (← hereSpan)
  | .empty _ :: _ => refuse .repetitionMissing (← hereSpan)
  | .flags .. :: _ => refuse .repetitionMissing (← hereSpan)
  | n :: rest => return (n, rest)

/-- A repetition by a sign of one character, which is the next one. -/
def signRepetition (items : List Node) (least : Nat) (most : Option Nat) :
    Reader (List Node) := do
  let (n, rest) ← repeated items
  let more ← bump
  let lazyOne := more && (← peek) == some '?'
  if lazyOne then
    let _ ← bump
  return .repetition ⟨n.span.start, ← here⟩ least most (!lazyOne) n :: rest

/-- A decimal number, or the fault of there being none. -/
def decimal : Reader (Except Fault Nat) := do
  let blank (c : Char) : Bool := isBlank c
  modify fun s =>
    let b := s.rest.takeWhile blank
    { s with rest := s.rest.drop b.length, place := b.foldl after s.place }
  let start ← here
  let ds ← takeBlanks Char.isDigit (← left) []
  let span : Span := ⟨start, ← here⟩
  let _ ← takeBlanks blank (← left) []
  if ds.isEmpty then return .error ⟨.repetitionCountDecimalEmpty, span, none⟩
  let n := ofDigits (ds.filterMap digitValue?)
  if n < 0x100000000 then return .ok n else return .error ⟨.decimalInvalid, span, none⟩

/-- A value, or its fault raised. -/
def demand {α : Type} : Except Fault α → Reader α
  | .ok a => return a
  | .error f => throw f

/-- The counts after an opening brace that began at `start`: the least and the greatest. -/
def counts (start : Place) : Reader (Nat × Option Nat) := do
  let least ← decimal
  if ← atEnd then refuse .repetitionCountUnclosed ⟨start, ← here⟩
  if (← peek) == some ',' then
    if !(← bumpBlanks) then refuse .repetitionCountUnclosed ⟨start, ← here⟩
    if (← peek) == some '\x7d' then return (← demand least, none)
    let low ← demand least
    let high ← demand (← decimal)
    return (low, some high)
  else
    let low ← demand least
    return (low, some low)

/-- A repetition with counts, whose brace is the next character. -/
def countedRepetition (items : List Node) : Reader (List Node) := do
  let start ← here
  let (n, rest) ← repeated items
  if !(← bumpBlanks) then refuse .repetitionCountUnclosed ⟨start, ← here⟩
  let (low, high) ← counts start
  if (← peek) != some '\x7d' then refuse .repetitionCountUnclosed ⟨start, ← here⟩
  let more ← bumpBlanks
  let lazyOne := more && (← peek) == some '?'
  if lazyOne then
    let _ ← bump
  let stop ← here
  if high.any (· < low) then refuse .repetitionCountInvalid ⟨start, stop⟩
  return .repetition ⟨n.span.start, stop⟩ low high (!lazyOne) n :: rest

/-! ### Groups -/

/-- The letter of a flag. -/
def flag? (c : Char) : Option Flag :=
  match c with
  | 'i' => some .caseInsensitive
  | 'm' => some .multiLine
  | 's' => some .dotAll
  | 'U' => some .swapGreed
  | 'u' => some .unicode
  | 'R' => some .crlf
  | 'x' => some .ignoreBlank
  | _ => none

/-- Flags up to a colon or a closing parenthesis: those switched on and those switched off.
`seen` holds the items so far, `none` being the sign of negation, and `dangling` the sign when it
was the last item. -/
def flagItems : (fuel : Nat) → (seen : List (Option Flag × Span)) → (off : Bool) →
    (dangling : Option Span) → Reader (List (Option Flag × Span × Bool))
  | 0, _, _, _ => return []
  | fuel + 1, seen, off, dangling => do
    match ← peek with
    | none => refuse .flagUnexpectedEof (← hereSpan)
    | some c =>
      if c == ':' || c == ')' then
        match dangling with
        | some span => refuse .flagDanglingNegation span
        | none => return []
      else
        let span ← charSpan
        let item ← (if c == '-' then pure none else
          match flag? c with
          | some f => pure (some f)
          | none => refuse .flagUnrecognized span)
        match seen.find? fun s => s.1 == item with
        | some old =>
          let cause := if item.isNone then Cause.flagRepeatedNegation else Cause.flagDuplicate
          throw ⟨cause, span, some old.2⟩
        | none =>
          if !(← bump) then refuse .flagUnexpectedEof (← hereSpan)
          let rest ← flagItems fuel ((item, span) :: seen) (off || item.isNone)
            (if item.isNone then some span else none)
          return (item, span, off) :: rest

/-- Whether a character may stand in the name of a group. -/
def isNameChar (first : Bool) (c : Char) : Bool :=
  if first then c == '_' || Unicode.isAlphabetic c
  else c == '_' || c == '.' || c == '[' || c == ']' || Unicode.isAlphanumeric c

/-- The characters of a group's name up to its closing angle. -/
def nameChars : (fuel : Nat) → List Char → Reader (List Char)
  | 0, acc => return acc.reverse
  | fuel + 1, acc => do
    match ← peek with
    | none => return acc.reverse
    | some c =>
      if c == '>' then return acc.reverse
      if !isNameChar acc.isEmpty c then refuse .groupNameInvalid (← charSpan)
      let _ ← bump
      nameChars fuel (c :: acc)

/-- The name of a group, its opening angle taken. -/
def groupName : Reader Unit := do
  if ← atEnd then refuse .groupNameUnexpectedEof (← hereSpan)
  let start ← here
  let name ← nameChars ((← left) + 1) []
  let stop ← here
  if ← atEnd then refuse .groupNameUnexpectedEof (← hereSpan)
  let _ ← bump
  if name.isEmpty then refuse .groupNameEmpty ⟨start, start⟩
  let s ← get
  match s.names.find? fun n => n.1 == name with
  | some old => throw ⟨.groupNameDuplicate, ⟨start, stop⟩, some old.2⟩
  | none =>
    let span : Span := ⟨start, stop⟩
    modify fun s => { s with names := s.names ++ [(name, span)] }

/-- What an opening parenthesis begins: a group, or flags for what follows. -/
inductive Opening
  | group (span : Span) (captures : Bool) (on off : List Flag)
  | flags (node : Node) (on off : List Flag)

/-- Reads the beginning of a group, whose parenthesis is the next character. -/
def groupOpen : Reader Opening := do
  let start ← charSpan
  let _ ← bump
  skipBlanks
  let around ← (do
    if ← bumpIf ['?', '='] then return true
    if ← bumpIf ['?', '!'] then return true
    if ← bumpIf ['?', '<', '='] then return true
    bumpIf ['?', '<', '!'])
  if around then refuse .unsupportedLookAround ⟨start.start, ← here⟩
  let inner ← hereSpan
  let named ← (do
    if ← bumpIf ['?', 'P', '<'] then return true
    bumpIf ['?', '<'])
  if named then
    groupName
    return .group start true [] []
  if ← bumpIf ['?'] then
    if ← atEnd then refuse .groupUnclosed start
    let items ← flagItems ((← left) + 1) [] false none
    let on := items.filterMap fun i => if i.2.2 then none else i.1
    let off := items.filterMap fun i => if i.2.2 then i.1 else none
    let last ← peek
    let _ ← bump
    if last == some ')' then
      if items.isEmpty then refuse .repetitionMissing inner
      return .flags (.flags ⟨start.start, ← here⟩ on off) on off
    return .group start false on off
  return .group start true [] []

/-! ### The whole pattern -/

/-- A group that is being read, or the whole pattern: its opening, the branches before the current
one and the items of the current one, the last first, and where they begin. -/
structure Level where
  opening : Option (Span × Bool × List Flag × List Flag)
  outerSkips : Bool
  branches : List Node
  firstStart : Place
  items : List Node
  start : Place

/-- Items in a row. -/
def concatNode (span : Span) : List Node → Node
  | [] => .empty span
  | [n] => n
  | ns => .concat span ns

/-- What a level holds when it ends. -/
def Level.node (l : Level) (stop : Place) : Node :=
  let last := concatNode ⟨l.start, stop⟩ l.items.reverse
  if l.branches.isEmpty then last
  else .alternation ⟨l.firstStart, stop⟩ (l.branches.reverse ++ [last])

/-- Whether blanks are skipped after these flags. -/
def skipsAfter (before : Bool) (on off : List Flag) : Bool :=
  if on.contains .ignoreBlank then true
  else if off.contains .ignoreBlank then false
  else before

/-- The rest of a pattern inside the level `l`, which `outer` enclose. -/
def levels : (fuel : Nat) → (l : Level) → (outer : List Level) → Reader Node
  | 0, l, _ => return l.node (← here)
  | fuel + 1, l, outer => do
    skipBlanks
    match ← peek with
    | none =>
      match l.opening with
      | some (span, _) => refuse .groupUnclosed span
      | none => return l.node (← here)
    | some '(' =>
      match ← groupOpen with
      | .flags node on off =>
        modify fun s => { s with skipsBlank := skipsAfter s.skipsBlank on off }
        levels fuel { l with items := node :: l.items } outer
      | .group span captures on off =>
        let before := (← get).skipsBlank
        modify fun s => { s with skipsBlank := skipsAfter before on off }
        let p ← here
        levels fuel ⟨some (span, captures, on, off), before, [], p, [], p⟩ (l :: outer)
    | some ')' =>
      match l.opening, outer with
      | some (span, captures, on, off), above :: outer' =>
        modify fun s => { s with skipsBlank := l.outerSkips }
        let inner := l.node (← here)
        let _ ← bump
        let node : Node := .group ⟨span.start, ← here⟩ captures on off inner
        levels fuel { above with items := node :: above.items } outer'
      | _, _ => refuse .groupUnopened (← charSpan)
    | some '|' =>
      let p ← here
      let branch := concatNode ⟨l.start, p⟩ l.items.reverse
      let _ ← bump
      let first := if l.branches.isEmpty then l.start else l.firstStart
      levels fuel { l with
        branches := branch :: l.branches, firstStart := first, items := [], start := ← here } outer
    | some '[' =>
      let node ← bracketed
      levels fuel { l with items := node :: l.items } outer
    | some '?' => levels fuel { l with items := ← signRepetition l.items 0 (some 1) } outer
    | some '*' => levels fuel { l with items := ← signRepetition l.items 0 none } outer
    | some '+' => levels fuel { l with items := ← signRepetition l.items 1 none } outer
    | some '\x7b' => levels fuel { l with items := ← countedRepetition l.items } outer
    | some '\\' =>
      let node ← escape
      levels fuel { l with items := node :: l.items } outer
    | some c =>
      let span ← charSpan
      let _ ← bump
      let node : Node := match c with
        | '.' => .dot span
        | '^' => .assertion span .startLine
        | '$' => .assertion span .endLine
        | c => .literal ⟨span, c, false⟩
      levels fuel { l with items := node :: l.items } outer

end Reader

/-! ### The limit of nesting -/

mutual

/-- The first node, in the order of reading, that is more than `room` deep. -/
def deepNode? (room : Nat) : Node → Option Span
  | .empty _ | .flags .. | .literal _ | .dot _ | .assertion .. | .letter .. | .property .. => none
  | .bracketed s _ set => if room == 0 then some s else deepSet? (room - 1) set
  | .repetition s _ _ _ n => if room == 0 then some s else deepNode? (room - 1) n
  | .group s _ _ _ n => if room == 0 then some s else deepNode? (room - 1) n
  | .alternation s ns => if room == 0 then some s else deepNodes? (room - 1) ns
  | .concat s ns => if room == 0 then some s else deepNodes? (room - 1) ns

/-- The same over a row of nodes. -/
def deepNodes? (room : Nat) : List Node → Option Span
  | [] => none
  | n :: ns => (deepNode? room n).orElse fun _ => deepNodes? room ns

/-- The same over the inside of a class. -/
def deepSet? (room : Nat) : ClassSet → Option Span
  | .items s is =>
    match is with
    | [] => none
    | [i] => deepItem? room i
    | i :: is => if room == 0 then some s
      else (deepItem? (room - 1) i).orElse fun _ => deepItems? (room - 1) is
  | .inter s l r | .diff s l r | .symmDiff s l r =>
    if room == 0 then some s
    else (deepSet? (room - 1) l).orElse fun _ => deepSet? (room - 1) r

/-- The same over the items of a class. -/
def deepItems? (room : Nat) : List ClassItem → Option Span
  | [] => none
  | i :: is => (deepItem? room i).orElse fun _ => deepItems? room is

/-- The same over an item of a class. -/
def deepItem? (room : Nat) : ClassItem → Option Span
  | .bracketed s _ set => if room == 0 then some s else deepSet? (room - 1) set
  | _ => none

end

/-- How deep a pattern may nest. -/
def nestLimit : Nat := 250

/-- The tree of a pattern. -/
def Node.parse (pattern : List Char) : Except Fault Node := do
  let start : Place := ⟨1, 1⟩
  let level : Reader.Level := ⟨none, false, [], start, [], start⟩
  let (node, _) ← (Reader.levels (pattern.length + 1) level []).run ⟨pattern, start, false, []⟩
  match deepNode? nestLimit node with
  | some span => .error ⟨.nestLimitExceeded nestLimit, span, none⟩
  | none => .ok node

end LuaSession.Pattern
