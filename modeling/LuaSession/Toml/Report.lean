import LuaSession.Text.Utf8
import LuaSession.Toml.Reader

/-!
# Reports

What is wrong with a document is told with the line where it is and a mark below it. Lines and
columns are counted from 1. The mark is as long as the bytes of what it stands below, but no longer
than the line.
-/

namespace LuaSession.Toml

/-- What is wrong with a document, and where. -/
structure ReadError where
  span : Span
  message : String
  deriving DecidableEq, Repr

/-- The wording of a fault: what was being read, what was expected, and the cause. -/
def Fault.message (f : Fault) : String :=
  let label := f.labels.head?.map ("invalid " ++ ·)
  let expected := if f.expected.isEmpty then none
    else some ("expected " ++ ", ".intercalate f.expected)
  "\n".intercalate ([label, expected, f.cause].filterMap id)

/-- The characters that begin before a byte, and those after them. -/
def splitAtByte : (offset : Nat) → List Char → List Char × List Char
  | _, [] => ([], [])
  | offset, c :: r =>
    if offset < c.utf8Size then ([], c :: r)
    else
      let (before, rest) := splitAtByte (offset - c.utf8Size) r
      (c :: before, rest)

/-- The number of bytes of some characters. -/
def byteCount (s : List Char) : Nat :=
  s.foldl (fun n c => n + c.utf8Size) 0

/-- The error for a fault. It stands at the character in which the fault is. -/
def Fault.toError (s : List Char) (f : Fault) : ReadError :=
  let (before, rest) := splitAtByte f.offset s
  let start := byteCount before
  ⟨⟨start, start + (rest.head?.map Char.utf8Size).getD 0⟩, f.message⟩

/-- A place in a text: the lines before it, the column, and the line. -/
structure Place where
  line : Nat
  column : Nat
  content : List Char
  deriving DecidableEq, Repr

/-- The characters up to the last line feed, with it, and those after it. -/
def splitAtLine (s : List Char) : List Char × List Char :=
  let last := s.reverse.takeWhile (· != '\n')
  (s.take (s.length - last.length), last.reverse)

/-- The place of a byte. The end of the text is one column after its last byte. A column is a number
of characters where the byte is the last of one, and a number of bytes where it is not. -/
def placeOf (s : List Char) (offset : Nat) : Place :=
  let last := byteCount s - 1
  let (before, rest) := splitAtByte (min offset last) s
  let (above, left) := splitAtLine before
  let inside := min offset last - byteCount before
  let column := match rest with
    | [] => 0
    | c :: _ => if inside + 1 = c.utf8Size then left.length else byteCount left + inside
  { line := above.count '\n'
    column := column + (offset - last)
    content := left ++ rest.takeWhile (· != '\n') }

/-- The report on an error in a text. -/
def ReadError.report (s : List Char) (e : ReadError) : String :=
  let p := placeOf s e.span.start
  let number := Number.natChars (p.line + 1)
  let gutter := List.replicate (number.length + 1) ' ' ++ ['|']
  let length := min (e.span.stop - e.span.start) (byteCount p.content - p.column)
  let rows : List (List Char) :=
    ["TOML parse error at line ".toList ++ number ++ ", column ".toList ++
       Number.natChars (p.column + 1),
     gutter,
     number ++ " | ".toList ++ p.content,
     gutter ++ List.replicate (p.column + 1) ' ' ++ List.replicate (max 1 length) '^',
     e.message.toList]
  String.ofList (rows.map (· ++ ['\n'])).flatten

/-- The document that a text is. -/
def read (s : List Char) : Except ReadError Table :=
  match document ⟨s, 0⟩ with
  | .ok t _ => .ok t
  | .miss f | .stop f => .error (f.toError s)

end LuaSession.Toml
