import LuaSession.Search.Hit

/-!
# Sections

A text split at its headers. Of the matches of the header pattern the first on each line opens a
section, which goes up to the next header. Matches are pairs of offsets in bytes; a section begins
at a number of characters.
-/

namespace LuaSession.Search

open LuaSession.Text

/-- A header with the text after it. -/
structure Section where
  header : List Char
  content : List Char
  start : Nat
  deriving DecidableEq, Repr

/-- The offset of the first line feed at `start` or later, or the end of the text. -/
def lineStop (s : List Char) (start : Nat) : Except Trap Nat := do
  let rest ← slice s start (byteLength s)
  return match find? '\n' rest with
    | some i => start + i
    | none => byteLength s

/-- The first match on each line; `passed` is where the line of the last header stops. -/
def headersFrom (s : List Char) (passed : Option Nat) :
    List (Nat × Nat) → Except Trap (List (Nat × Nat))
  | [] => .ok []
  | m :: ms =>
    if passed.any (m.1 ≤ ·) then headersFrom s passed ms
    else do
      let stop ← lineStop s m.1
      return m :: (← headersFrom s (some stop) ms)

/-- Where a section stops before the next headers. -/
def contentStop (s : List Char) : List (Nat × Nat) → Nat
  | [] => byteLength s
  | next :: _ => next.1

/-- The sections that headers behind the cursor open. -/
def sectionsFrom (s : List Char) : Cursor → List (Nat × Nat) → Except Trap (List Section)
  | _, [] => .ok []
  | c, m :: ms => do
    let header ← slice s m.1 m.2
    let content ← slice s m.2 (contentStop s ms)
    let c ← c.advance s m.1
    return ⟨header, content, c.chars⟩ :: (← sectionsFrom s c ms)

/-- The sections of a text by the matches of its header pattern. -/
def sectionsOf (s : List Char) (ms : List (Nat × Nat)) : Except Trap (List Section) := do
  sectionsFrom s {} (← headersFrom s none ms)

/-- The sections of a text by a header pattern, whose line anchors hold at every line. -/
def sectionsOrTrap (s pattern : List Char) :
    Except Pattern.Refusal (Except Trap (List Section)) :=
  (Pattern.compile pattern true).map fun p => sectionsOf s (spans p s)

/-- The sections of a text by a header pattern, whose matches stand between characters. -/
def sections (s pattern : List Char) : Except Pattern.Refusal (List Section) :=
  (sectionsOrTrap s pattern).map (untrapped [])

end LuaSession.Search
