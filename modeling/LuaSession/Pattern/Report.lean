import LuaSession.Pattern.Syntax
import LuaSession.Text.Lines
import LuaSession.Number.Digits

/-!
# Reports of faulty patterns

The pattern is shown with marks under the text at fault. A pattern of several lines stands between
rules and its lines are numbered.
-/

namespace LuaSession.Pattern

open LuaSession.Text LuaSession.Number

/-- The order of spans by their beginning, then by their end. -/
def Span.before (a b : Span) : Bool :=
  let k (p : Place) := (p.line, p.column)
  if k a.start == k b.start then
    a.stop.line < b.stop.line ||
      (a.stop.line == b.stop.line && a.stop.column ≤ b.stop.column)
  else a.start.line < b.start.line ||
    (a.start.line == b.start.line && a.start.column ≤ b.start.column)

/-- The spans of a fault in their order. -/
def Fault.spans (f : Fault) : List Span :=
  match f.other with
  | none => [f.span]
  | some o => if f.span.before o then [f.span, o] else [o, f.span]

/-- The marks under a line, from column `column` on. -/
def marks (column : Nat) : List Span → List Char
  | [] => []
  | s :: rest =>
    let blanks := s.start.column - 1 - column
    let width := max 1 (s.stop.column - s.start.column)
    List.replicate blanks ' ' ++ List.replicate width '^' ++
      marks (max column (s.start.column - 1) + width) rest

/-- The lines of the pattern, numbered from `number`, each with the marks under it. -/
def notate (width : Nat) (spans : List Span) (number : Nat) : List (List Char) → List Char
  | [] => []
  | l :: rest =>
    let label := natChars number
    let head := if width == 0 then List.replicate 4 ' '
      else List.replicate (width - label.length) ' ' ++ label ++ [':', ' ']
    let here := spans.filter fun s => s.start.line == number
    let under := if here.isEmpty then []
      else List.replicate (if width == 0 then 4 else width + 2) ' ' ++ marks 0 here ++ ['\n']
    head ++ l ++ '\n' :: (under ++ notate width spans (number + 1) rest)

/-- What is said of a span over several lines. -/
def acrossNote (s : Span) : String :=
  s!"on line {s.start.line} (column {s.start.column}) through line {s.stop.line} " ++
    s!"(column {s.stop.column - 1})"

/-- The report of a fault in a pattern. -/
def Fault.report (f : Fault) (pattern : List Char) : String :=
  let ls := lines pattern
  let count := ls.length + if pattern.getLast? == some '\n' then 1 else 0
  let width := if count ≤ 1 then 0 else (natChars count).length
  let inLine := f.spans.filter fun s => s.start.line == s.stop.line
  let across := f.spans.filter fun s => s.start.line != s.stop.line
  let shown := String.ofList (notate width inLine 1 ls)
  let reason := "error: " ++ f.cause.message
  if pattern.contains '\n' then
    let rule := String.ofList (List.replicate 79 '~') ++ "\n"
    let notes := if across.isEmpty then ""
      else String.intercalate "\n" (across.map acrossNote) ++ "\n"
    "regex parse error:\n" ++ rule ++ shown ++ rule ++ notes ++ reason
  else "regex parse error:\n" ++ shown ++ reason

end LuaSession.Pattern
