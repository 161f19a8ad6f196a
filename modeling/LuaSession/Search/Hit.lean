import LuaSession.Pattern.Basic
import LuaSession.Text.Offset

/-!
# Hits

Where a pattern matches in a text, with the text around each match. A match is a pair of offsets in
bytes. What is told of it counts characters, so the matches are gone through with a cursor that
counts on from the match before.
-/

namespace LuaSession.Search

open LuaSession.Text

/-- A match with its surroundings. -/
structure Hit where
  matched : List Char
  context : List Char
  start : Nat
  stop : Nat
  deriving DecidableEq, Repr

/-- The hit of a match, with `window` characters on both sides as far as the text goes, and the
cursor behind it. -/
def hitAt (s : List Char) (window : Nat) (c : Cursor) (m : Nat × Nat) :
    Except Trap (Hit × Cursor) := do
  let before ← back s m.1 window
  let after ← forward s m.2 window
  let start ← c.advance s m.1
  let stop ← start.advance s m.2
  let matched ← slice s m.1 m.2
  let context ← slice s before after
  return (⟨matched, context, start.chars, stop.chars⟩, stop)

/-- The hits of matches that stand behind the cursor. -/
def hitsFrom (s : List Char) (window : Nat) : Cursor → List (Nat × Nat) → Except Trap (List Hit)
  | _, [] => .ok []
  | c, m :: ms => do
    let (h, c) ← hitAt s window c m
    return h :: (← hitsFrom s window c ms)

/-- The hits of the first `limit` matches. -/
def hitsOf (s : List Char) (window limit : Nat) (ms : List (Nat × Nat)) : Except Trap (List Hit) :=
  hitsFrom s window {} (ms.take limit)

/-- Shown when nothing matches. -/
def notFound : List Char := "not found".toList

/-- The first match, cut to `limit` characters with dots after the cut. -/
def quoteOf (s : List Char) (limit : Nat) : Option (Nat × Nat) → Except Trap (List Char)
  | none => .ok notFound
  | some m => do
    let q ← slice s m.1 m.2
    return if q.length ≤ limit then q else q.take limit ++ ['.', '.', '.']

/-- The default width of the context of a hit. -/
def defaultWindow : Nat := 50

/-- The default for how many hits are given. -/
def defaultLimit : Nat := 100

/-- The default length of a quote. -/
def defaultQuoteLength : Nat := 100

/-- The offsets of a pair of characters. -/
def inBytes (s : List Char) (m : Nat × Nat) : Nat × Nat :=
  (offset s m.1, offset s m.2)

@[simp]
theorem inBytes_fst (s : List Char) (m : Nat × Nat) : (inBytes s m).1 = offset s m.1 := rfl

@[simp]
theorem inBytes_snd (s : List Char) (m : Nat × Nat) : (inBytes s m).2 = offset s m.2 := rfl

/-- The matches of a program in a text. -/
def spans (p : Pattern.Program) (s : List Char) : List (Nat × Nat) :=
  (Pattern.allMatches p s.toArray).map (inBytes s)

/-- The first match of a program in a text. -/
def firstSpan (p : Pattern.Program) (s : List Char) : Option (Nat × Nat) :=
  (Pattern.find? p s.toArray 0).map fun m => inBytes s (m.start, m.stop)

/-- The first `limit` hits of a pattern. -/
def hitsOrTrap (s pattern : List Char) (window limit : Nat) :
    Except Pattern.Refusal (Except Trap (List Hit)) :=
  (Pattern.compile pattern false).map fun p => hitsOf s window limit (spans p s)

/-- The first `limit` hits of a pattern, whose matches stand between characters. -/
def hits (s pattern : List Char) (window limit : Nat) : Except Pattern.Refusal (List Hit) :=
  (hitsOrTrap s pattern window limit).map (untrapped [])

/-- How many times a pattern matches. -/
def count (s pattern : List Char) : Except Pattern.Refusal Nat :=
  (Pattern.compile pattern false).map fun p => (spans p s).length

/-- The first match of a pattern, cut to a length. -/
def quoteOrTrap (s pattern : List Char) (limit : Nat) :
    Except Pattern.Refusal (Except Trap (List Char)) :=
  (Pattern.compile pattern false).map fun p => quoteOf s limit (firstSpan p s)

/-- The first match of a pattern, cut to a length; it stands between characters. -/
def quote (s pattern : List Char) (limit : Nat) : Except Pattern.Refusal (List Char) :=
  (quoteOrTrap s pattern limit).map (untrapped [])

end LuaSession.Search
