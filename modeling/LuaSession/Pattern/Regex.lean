import LuaSession.Pattern.Syntax
import LuaSession.Unicode.Classes
import LuaSession.Unicode.Script
import LuaSession.Unicode.Fold

/-!
# The meaning of patterns

A regular expression over sets of characters and conditions on positions. `Node.meaning` turns the
tree of a pattern into one: flags are applied, classes become sets of ranges, and letters without
regard to case become the sets of their mates.
-/

namespace LuaSession.Pattern

open LuaSession.Unicode

/-- A condition on a position. -/
inductive Look
  | start | stop | startLine | stopLine | startLineCrlf | stopLineCrlf
  | boundary (ascii negated : Bool)
  | wordStart (ascii : Bool) | wordEnd (ascii : Bool)
  | wordStartHalf (ascii : Bool) | wordEndHalf (ascii : Bool)
  deriving DecidableEq, Repr

/-- A regular expression. Of the branches of `either` the first is preferred, and a greedy
repetition prefers to go on. -/
inductive Regex
  | empty
  | chars (ranges : Ranges)
  | look (l : Look)
  | both (first second : Regex)
  | either (first second : Regex)
  | repeated (least : Nat) (most : Option Nat) (greedy : Bool) (item : Regex)
  | group (item : Regex)
  deriving Inhabited

/-- The switches in force. -/
structure Switches where
  caseInsensitive : Bool
  multiLine : Bool
  dotAll : Bool := false
  swapGreed : Bool := false
  unicode : Bool := true
  crlf : Bool := false
  deriving DecidableEq, Repr

/-- One switch set. -/
def Switches.put (value : Bool) (s : Switches) : Flag → Switches
  | .caseInsensitive => { s with caseInsensitive := value }
  | .multiLine => { s with multiLine := value }
  | .dotAll => { s with dotAll := value }
  | .swapGreed => { s with swapGreed := value }
  | .unicode => { s with unicode := value }
  | .crlf => { s with crlf := value }
  | .ignoreBlank => s

/-- The switches after flags. -/
def Switches.after (s : Switches) (on off : List Flag) : Switches :=
  off.foldl (Switches.put false) (on.foldl (Switches.put true) s)

/-- Refuses a pattern for its meaning. -/
def refuseMeaning {α : Type} (cause : Cause) (span : Span) : Except Fault α :=
  .error ⟨cause, span, none⟩

/-! ### Sets of characters -/

/-- The range of one character. -/
def one (c : Char) : Ranges := [(c.toNat, c.toNat)]

/-- The letters of the other case, for letters below 128. -/
def foldAscii (rs : Ranges) : Ranges :=
  Ranges.ofList (rs ++ (Ranges.inter rs [(97, 122)]).map (fun r => (r.1 - 32, r.2 - 32)) ++
    (Ranges.inter rs [(65, 90)]).map (fun r => (r.1 + 32, r.2 + 32)))

/-- A set with the mates of its characters, where case does not matter. -/
def Switches.folded (s : Switches) (rs : Ranges) : Ranges :=
  if s.caseInsensitive then (if s.unicode then rs.fold else foldAscii rs) else rs

/-- The complement: among all characters, or among the bytes. -/
def Switches.negated (s : Switches) (negate : Bool) (rs : Ranges) : Ranges :=
  if !negate then rs
  else if s.unicode then rs.complement
  else Ranges.inter rs.complement [(0, 255)]

/-- A set that outside of Unicode must stay below 128. -/
def Switches.checked (s : Switches) (span : Span) (rs : Ranges) : Except Fault Ranges :=
  if !s.unicode && !rs.isAscii then refuseMeaning .invalidUtf8 span else .ok rs

/-- The characters of a class with a name between colons. -/
def Posix.ranges : Posix → Ranges
  | .alnum => [(48, 57), (65, 90), (97, 122)]
  | .alpha => [(65, 90), (97, 122)]
  | .ascii => [(0, 127)]
  | .blank => [(9, 9), (32, 32)]
  | .cntrl => [(0, 31), (127, 127)]
  | .digit => [(48, 57)]
  | .graph => [(33, 126)]
  | .lower => [(97, 122)]
  | .print => [(32, 126)]
  | .punct => [(33, 47), (58, 64), (91, 96), (123, 126)]
  | .space => [(9, 13), (32, 32)]
  | .upper => [(65, 90)]
  | .word => [(48, 57), (65, 90), (95, 95), (97, 122)]
  | .xdigit => [(48, 57), (65, 70), (97, 102)]

/-- The characters of a class with a letter of its own. -/
def Letter.ranges (unicode : Bool) : Letter → Ranges
  | .digit => if unicode then digitRanges else Posix.digit.ranges
  | .space => if unicode then spaceRanges else Posix.space.ranges
  | .word => if unicode then wordRanges else Posix.word.ranges

/-- The characters of a class with a letter, in the switches' alphabet. -/
def Switches.letter (s : Switches) (span : Span) (kind : Letter) (negated : Bool) :
    Except Fault Ranges :=
  s.checked span (s.negated negated (kind.ranges s.unicode))

/-- The characters with a property. -/
def PropertyQuery.ranges (span : Span) : PropertyQuery → Except Fault Ranges
  | .name word =>
    let n := normalName word
    let known := if n == "cf" || n == "sc" || n == "lc" then none
      else (propertyRanges? n).map some |>.orElse fun _ =>
        if otherProperties.contains n then some none else none
    match known with
    | some (some rs) => .ok rs
    | some none => refuseMeaning .propertyNotFound span
    | none =>
      match (categoryRanges? n).orElse fun _ => scriptRanges? n with
      | some rs => .ok rs
      | none => refuseMeaning .propertyNotFound span
  | .value prop wanted =>
    let p := normalName prop
    let v := normalName wanted
    let found (r : Option Ranges) : Except Fault Ranges :=
      match r with
      | some rs => .ok rs
      | none => refuseMeaning .propertyValueNotFound span
    if p == "gc" || p == "generalcategory" then found (categoryRanges? v)
    else if p == "sc" || p == "script" then found (scriptRanges? v)
    else if p == "scx" || p == "scriptextensions" then found (scriptExtensionRanges? v)
    else if otherProperties.contains p || (propertyRanges? p).isSome then
      refuseMeaning .propertyValueNotFound span
    else refuseMeaning .propertyNotFound span

/-- The characters with a property, under the switches. -/
def Switches.property (s : Switches) (span : Span) (query : PropertyQuery) (negated : Bool) :
    Except Fault Ranges :=
  if !s.unicode then refuseMeaning .unicodeNotAllowed span
  else (query.ranges span).map fun rs => s.negated negated (s.folded rs)

/-- The code of a literal in a class. -/
def Switches.classCode (s : Switches) (l : Literal) : Except Fault Nat :=
  if s.unicode || l.char.toNat < 128 then .ok l.char.toNat
  else if l.isByte then refuseMeaning .invalidUtf8 l.span
  else refuseMeaning .unicodeNotAllowed l.span

mutual

/-- The characters of an item of a class. -/
def itemRanges (s : Switches) : ClassItem → Except Fault Ranges
  | .literal l => do
    let n ← s.classCode l
    pure [(n, n)]
  | .range _ a b => do
    let a ← s.classCode a
    let b ← s.classCode b
    pure [(a, b)]
  | .posix span kind negated => s.checked span (s.negated negated (s.folded kind.ranges))
  | .property span q negated => s.property span q negated
  | .letter span k negated => s.letter span k negated
  | .bracketed span negated set => do
    s.checked span (s.negated negated (s.folded (← setRanges s set)))

/-- The characters of some items of a class. -/
def itemsRanges (s : Switches) : List ClassItem → Except Fault (List (Nat × Nat))
  | [] => .ok []
  | i :: is => do
    let a ← itemRanges s i
    let b ← itemsRanges s is
    pure (a ++ b)

/-- The characters of the inside of a class. -/
def setRanges (s : Switches) : ClassSet → Except Fault Ranges
  | .items _ is => return Ranges.ofList (← itemsRanges s is)
  | .inter _ l r => do
    let a ← setRanges s l
    let b ← setRanges s r
    pure (Ranges.inter (s.folded a) (s.folded b))
  | .diff _ l r => do
    let a ← setRanges s l
    let b ← setRanges s r
    pure (Ranges.diff (s.folded a) (s.folded b))
  | .symmDiff _ l r => do
    let a ← setRanges s l
    let b ← setRanges s r
    pure (Ranges.symmDiff (s.folded a) (s.folded b))

end

/-- A literal outside of classes. -/
def Switches.literal (s : Switches) (l : Literal) : Except Fault Regex :=
  if !s.unicode && l.isByte && 127 < l.char.toNat then refuseMeaning .invalidUtf8 l.span
  else .ok (.chars (s.folded (one l.char)))

/-- The sign for any character. -/
def Switches.dot (s : Switches) (span : Span) : Except Fault Regex :=
  if !s.unicode then refuseMeaning .invalidUtf8 span
  else if s.dotAll then .ok (.chars [(0, maxCode)])
  else if s.crlf then .ok (.chars [(0, 9), (11, 12), (14, maxCode)])
  else .ok (.chars [(0, 9), (11, maxCode)])

/-- A condition on a position. -/
def Switches.look (s : Switches) : Assertion → Look
  | .startLine => if s.multiLine then (if s.crlf then .startLineCrlf else .startLine) else .start
  | .endLine => if s.multiLine then (if s.crlf then .stopLineCrlf else .stopLine) else .stop
  | .startText => .start
  | .endText => .stop
  | .wordBoundary => .boundary (!s.unicode) false
  | .notWordBoundary => .boundary (!s.unicode) true
  | .wordStart => .wordStart (!s.unicode)
  | .wordEnd => .wordEnd (!s.unicode)
  | .wordStartHalf => .wordStartHalf (!s.unicode)
  | .wordEndHalf => .wordEndHalf (!s.unicode)

mutual

/-- The meaning of a node under the switches, and the switches after it. -/
def nodeMeaning (s : Switches) : Node → Except Fault (Regex × Switches)
  | .empty _ => .ok (.empty, s)
  | .flags _ on off => .ok (.empty, s.after on off)
  | .literal l => do return (← s.literal l, s)
  | .dot span => do return (← s.dot span, s)
  | .assertion _ kind => .ok (.look (s.look kind), s)
  | .letter span kind negated => do return (.chars (← s.letter span kind negated), s)
  | .property span q negated => do return (.chars (← s.property span q negated), s)
  | .bracketed span negated set => do
    let rs ← setRanges s set
    return (.chars (← s.checked span (s.negated negated (s.folded rs))), s)
  | .repetition _ least most greedy n => do
    let (r, s') ← nodeMeaning s n
    return (.repeated least most (if s'.swapGreed then !greedy else greedy) r, s')
  | .group _ captures on off n => do
    let (r, _) ← nodeMeaning (s.after on off) n
    return (if captures then .group r else r, s)
  | .alternation _ ns => branchMeanings s ns
  | .concat _ ns => rowMeanings s ns

/-- The meaning of branches. -/
def branchMeanings (s : Switches) : List Node → Except Fault (Regex × Switches)
  | [] => .ok (.empty, s)
  | [n] => nodeMeaning s n
  | n :: ns => do
    let (r, s') ← nodeMeaning s n
    let (rs, s'') ← branchMeanings s' ns
    return (.either r rs, s'')

/-- The meaning of a row. -/
def rowMeanings (s : Switches) : List Node → Except Fault (Regex × Switches)
  | [] => .ok (.empty, s)
  | [n] => nodeMeaning s n
  | n :: ns => do
    let (r, s') ← nodeMeaning s n
    let (rs, s'') ← rowMeanings s' ns
    return (.both r rs, s'')

end

/-- The meaning of a pattern's tree. -/
def Node.meaning (n : Node) (s : Switches) : Except Fault Regex :=
  (nodeMeaning s n).map Prod.fst

/-- Whether the expression takes at least one character whenever it matches. -/
def Regex.consumes : Regex → Bool
  | .empty | .look _ => false
  | .chars _ => true
  | .both a b => a.consumes || b.consumes
  | .either a b => a.consumes && b.consumes
  | .repeated least _ _ r => least != 0 && r.consumes
  | .group r => r.consumes

end LuaSession.Pattern
