/-!
# The syntax of patterns

Places in a pattern, the tree that a pattern is read into, and the faults of patterns. Every node
keeps the span of text it was read from, because faults that only show later name it.
-/

namespace LuaSession.Pattern

/-- A place in a pattern, both counts from 1, the column in characters. -/
structure Place where
  line : Nat
  column : Nat
  deriving DecidableEq, Repr, Inhabited

/-- The text from one place up to another. -/
structure Span where
  start : Place
  stop : Place
  deriving DecidableEq, Repr, Inhabited

/-- Why a pattern is refused. -/
inductive Cause
  | classEscapeInvalid | classRangeInvalid | classRangeLiteral | classUnclosed
  | decimalEmpty | decimalInvalid
  | escapeHexEmpty | escapeHexInvalid | escapeHexInvalidDigit | escapeUnexpectedEof
  | escapeUnrecognized
  | flagDanglingNegation | flagDuplicate | flagRepeatedNegation | flagUnexpectedEof
  | flagUnrecognized
  | groupNameDuplicate | groupNameEmpty | groupNameInvalid | groupNameUnexpectedEof
  | groupUnclosed | groupUnopened
  | nestLimitExceeded (limit : Nat)
  | repetitionCountInvalid | repetitionCountDecimalEmpty | repetitionCountUnclosed
  | repetitionMissing
  | specialBoundaryUnclosed | specialBoundaryUnrecognized | specialBoundaryUnexpectedEof
  | unicodeClassInvalid | unsupportedBackreference | unsupportedLookAround
  | unicodeNotAllowed | invalidUtf8 | propertyNotFound | propertyValueNotFound
  deriving DecidableEq, Repr

/-- The wording of a cause. -/
def Cause.message : Cause → String
  | .classEscapeInvalid => "invalid escape sequence found in character class"
  | .classRangeInvalid => "invalid character class range, the start must be <= the end"
  | .classRangeLiteral => "invalid range boundary, must be a literal"
  | .classUnclosed => "unclosed character class"
  | .decimalEmpty => "decimal literal empty"
  | .decimalInvalid => "decimal literal invalid"
  | .escapeHexEmpty => "hexadecimal literal empty"
  | .escapeHexInvalid => "hexadecimal literal is not a Unicode scalar value"
  | .escapeHexInvalidDigit => "invalid hexadecimal digit"
  | .escapeUnexpectedEof => "incomplete escape sequence, reached end of pattern prematurely"
  | .escapeUnrecognized => "unrecognized escape sequence"
  | .flagDanglingNegation => "dangling flag negation operator"
  | .flagDuplicate => "duplicate flag"
  | .flagRepeatedNegation => "flag negation operator repeated"
  | .flagUnexpectedEof => "expected flag but got end of regex"
  | .flagUnrecognized => "unrecognized flag"
  | .groupNameDuplicate => "duplicate capture group name"
  | .groupNameEmpty => "empty capture group name"
  | .groupNameInvalid => "invalid capture group character"
  | .groupNameUnexpectedEof => "unclosed capture group name"
  | .groupUnclosed => "unclosed group"
  | .groupUnopened => "unopened group"
  | .nestLimitExceeded limit =>
    s!"exceed the maximum number of nested parentheses/brackets ({limit})"
  | .repetitionCountInvalid => "invalid repetition count range, the start must be <= the end"
  | .repetitionCountDecimalEmpty => "repetition quantifier expects a valid decimal"
  | .repetitionCountUnclosed => "unclosed counted repetition"
  | .repetitionMissing => "repetition operator missing expression"
  | .specialBoundaryUnclosed =>
    "special word boundary assertion is either unclosed or contains an invalid character"
  | .specialBoundaryUnrecognized =>
    "unrecognized special word boundary assertion, valid choices are: start, end, start-half " ++
      "or end-half"
  | .specialBoundaryUnexpectedEof =>
    "found either the beginning of a special word boundary or a bounded repetition on a \\b " ++
      "with an opening brace, but no closing brace"
  | .unicodeClassInvalid => "invalid Unicode character class"
  | .unsupportedBackreference => "backreferences are not supported"
  | .unsupportedLookAround =>
    "look-around, including look-ahead and look-behind, is not supported"
  | .unicodeNotAllowed => "Unicode not allowed here"
  | .invalidUtf8 => "pattern can match invalid UTF-8"
  | .propertyNotFound => "Unicode property not found"
  | .propertyValueNotFound => "Unicode property value not found"

/-- A fault of a pattern: its cause, the text at fault, and the earlier text it clashes with. -/
structure Fault where
  cause : Cause
  span : Span
  other : Option Span := none
  deriving DecidableEq, Repr

/-- A switch inside a pattern. -/
inductive Flag
  | caseInsensitive | multiLine | dotAll | swapGreed | unicode | crlf | ignoreBlank
  deriving DecidableEq, Repr

/-- The classes with a letter of their own. -/
inductive Letter
  | digit | space | word
  deriving DecidableEq, Repr

/-- The classes with a name between colons. -/
inductive Posix
  | alnum | alpha | ascii | blank | cntrl | digit | graph | lower | print | punct | space
  | upper | word | xdigit
  deriving DecidableEq, Repr

/-- Conditions on a position that take no character. -/
inductive Assertion
  | startLine | endLine | startText | endText
  | wordBoundary | notWordBoundary | wordStart | wordEnd | wordStartHalf | wordEndHalf
  deriving DecidableEq, Repr

/-- How a property of characters is asked for. -/
inductive PropertyQuery
  | name (name : List Char)
  | value (property value : List Char)
  deriving DecidableEq, Repr

/-- A literal: its character, and whether it was written as a byte in hexadecimal. -/
structure Literal where
  span : Span
  char : Char
  isByte : Bool
  deriving DecidableEq, Repr

mutual

/-- What stands in a bracketed class. -/
inductive ClassItem
  | literal (l : Literal)
  | range (span : Span) (first last : Literal)
  | posix (span : Span) (kind : Posix) (negated : Bool)
  | property (span : Span) (query : PropertyQuery) (negated : Bool)
  | letter (span : Span) (kind : Letter) (negated : Bool)
  | bracketed (span : Span) (negated : Bool) (set : ClassSet)

/-- The inside of a bracketed class: items, or two insides with an operator between them. -/
inductive ClassSet
  | items (span : Span) (items : List ClassItem)
  | inter (span : Span) (left right : ClassSet)
  | diff (span : Span) (left right : ClassSet)
  | symmDiff (span : Span) (left right : ClassSet)

end

/-- The tree of a pattern. -/
inductive Node
  | empty (span : Span)
  | flags (span : Span) (on off : List Flag)
  | literal (l : Literal)
  | dot (span : Span)
  | assertion (span : Span) (kind : Assertion)
  | letter (span : Span) (kind : Letter) (negated : Bool)
  | property (span : Span) (query : PropertyQuery) (negated : Bool)
  | bracketed (span : Span) (negated : Bool) (set : ClassSet)
  | repetition (span : Span) (least : Nat) (most : Option Nat) (greedy : Bool) (item : Node)
  | group (span : Span) (captures : Bool) (on off : List Flag) (item : Node)
  | alternation (span : Span) (branches : List Node)
  | concat (span : Span) (items : List Node)

/-- The text a node was read from. -/
def Node.span : Node → Span
  | .empty s | .flags s .. | .dot s | .assertion s _ | .letter s .. | .property s ..
  | .bracketed s .. | .repetition s .. | .group s .. | .alternation s _ | .concat s _ => s
  | .literal l => l.span

/-- The text an item was read from. -/
def ClassItem.span : ClassItem → Span
  | .literal l => l.span
  | .range s .. | .posix s .. | .property s .. | .letter s .. | .bracketed s .. => s

end LuaSession.Pattern
