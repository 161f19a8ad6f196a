import LuaSession.Json.Reader

/-!
# JSON inside a text

A text may hold one object or array among other words. Two spans may be it: from the first brace
to the last, and from the first bracket to the last. The longer of them, in bytes, is read first.
-/

namespace LuaSession.Search

open LuaSession.Text

/-- The span from the first opening delimiter to the last closing one, if that comes later. -/
def delimited (opening closing : Char) (s : List Char) : Except Trap (Option (List Char)) :=
  match find? opening s, rfind? closing s with
  | some start, some stop =>
    if start < stop then (slice s start (stop + closing.utf8Size)).map some else .ok none
  | _, _ => .ok none

/-- The spans that may be a structure, the first to be read in front. -/
def candidates (s : List Char) : Except Trap (List (List Char)) := do
  let braced ← delimited '\x7b' '\x7d' s
  let bracketed ← delimited '[' ']' s
  return match braced, bracketed with
    | some a, some b => if byteLength a < byteLength b then [b, a] else [a, b]
    | some a, none => [a]
    | none, some b => [b]
    | none, none => []

/-- The value that a span is, if it is JSON. -/
def jsonOf? (span : List Char) : Option Json :=
  match Json.parse span with
  | .ok v => some v
  | .error _ => none

/-- The structure that a text holds. -/
def embeddedOrTrap (s : List Char) : Except Trap (Option Json) :=
  (candidates s).map fun spans => spans.findSome? jsonOf?

/-- The structure that a text holds; delimiters stand between characters. -/
def embeddedJson (s : List Char) : Option Json :=
  untrapped none (embeddedOrTrap s)

end LuaSession.Search
