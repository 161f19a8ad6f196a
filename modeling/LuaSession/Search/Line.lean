import LuaSession.Pattern.Basic
import LuaSession.Text.Lines

/-!
# Lines that match

Lines are numbered from 1 and matched without their terminators.
-/

namespace LuaSession.Search

open LuaSession.Text

/-- A line with its number. -/
structure NumberedLine where
  number : Nat
  line : List Char
  deriving DecidableEq, Repr

/-- The lines from number `n` on that satisfy `p`. -/
def linesWhere (p : List Char → Bool) (n : Nat) : List (List Char) → List NumberedLine
  | [] => []
  | l :: ls => if p l then ⟨n, l⟩ :: linesWhere p (n + 1) ls else linesWhere p (n + 1) ls

/-- The lines of a text that a pattern matches. -/
def findLines (text pattern : List Char) : Except Pattern.Refusal (List NumberedLine) :=
  (Pattern.compile pattern false).map fun p =>
    linesWhere (fun l => Pattern.isMatch p l.toArray) 1 (lines text)

/-- How many lines a text has, or how many of them a pattern matches. -/
def countLines (text : List Char) : Option (List Char) → Except Pattern.Refusal Nat
  | none => .ok (lines text).length
  | some pattern =>
    (Pattern.compile pattern false).map fun p =>
      ((lines text).filter fun l => Pattern.isMatch p l.toArray).length

end LuaSession.Search
