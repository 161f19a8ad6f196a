/-!
# Similar words

How much two words are alike, from zero to one: by the share of characters that they have in common
at about the same place, and by how many of these are in another order.
-/

namespace LuaSession.CommandLine

/-- The common characters of two words: their places in the first and in the second, as marks. -/
structure Common where
  inFirst : Array Bool
  inSecond : Array Bool

/-- The first place from `low` to below `high` where `c` stands unmarked. -/
def unmarked? (second : Array Char) (marks : Array Bool) (c : Char) (low high : Nat) :
    Option Nat :=
  (List.range' low (high - low)).find? fun j => second[j]? == some c && marks[j]? == some false

/-- The characters that two words have in common, each no further than `reach` from its place in the
other word. -/
def common (reach : Nat) (first second : Array Char) : Common :=
  (List.range first.size).foldl (fun marks i =>
    match first[i]?.bind fun c =>
      unmarked? second marks.inSecond c (i - reach) (min second.size (i + reach + 1)) with
    | some j => ⟨marks.inFirst.set! i true, marks.inSecond.set! j true⟩
    | none => marks)
    ⟨Array.replicate first.size false, Array.replicate second.size false⟩

/-- The marked characters of a word. -/
def marked (word : Array Char) (marks : Array Bool) : List Char :=
  (word.toList.zip marks.toList).filterMap fun (c, mark) => if mark then some c else none

/-- How much two words are alike. -/
def similarity (a b : String) : Float :=
  let first := a.toList.toArray
  let second := b.toList.toArray
  if first.isEmpty && second.isEmpty then 1.0
  else
    let marks := common (max first.size second.size / 2 - 1) first second
    let ours := marked first marks.inFirst
    let theirs := marked second marks.inSecond
    let found := ours.length
    if found == 0 then 0.0
    else
      let moved := ((ours.zip theirs).filter fun (c, d) => c != d).length / 2
      (found.toFloat / first.size.toFloat + found.toFloat / second.size.toFloat
        + (found - moved).toFloat / found.toFloat) / 3.0

/-- The word that is most like a given one, if any is like it at all; of equals, the last. -/
def mostSimilar (word : String) (words : List String) : Option String :=
  (words.foldl (fun (best : Option (String × Float)) w =>
    let s := similarity word w
    if 0.7 < s && (best.map fun b => decide (b.2 ≤ s)).getD true then some (w, s) else best)
    none).map (·.1)

end LuaSession.CommandLine
