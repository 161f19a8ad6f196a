import LuaSession.Text.Offset

/-!
# Chunks

A text cut into chunks of equal size whose beginnings are a step apart; a step smaller than the
size makes neighbours overlap. Sizes count characters. The text is cut at the offsets of its
characters, which are looked up in a list.
-/

namespace LuaSession.Text

/-- The greatest machine word. -/
def wordMax : Nat := 0xFFFFFFFFFFFFFFFF

/-- The sum of two words, or the greatest word if there is none. -/
def saturatingAdd (a b : Nat) : Nat :=
  min (a + b) wordMax

/-- The difference of two words. -/
def difference (a b : Nat) : Except Trap Nat :=
  if b ≤ a then .ok (a - b) else .error (.difference a b)

/-- The number at a place of a list. -/
def numberAt (l : List Nat) (index : Nat) : Except Trap Nat :=
  match l[index]? with
  | some n => .ok n
  | none => .error (.place index)

/-- The step between chunks of a size that overlap: at least one. -/
def chunkStep (size overlap : Int) : Nat :=
  max 1 (size.toNat - overlap.toNat)

/-- The offsets of the characters of a text, and of its end. -/
def bounds (s : List Char) : List Nat :=
  (charIndices s).map Prod.fst ++ [byteLength s]

/-- Every `step`-th number below `count`, from zero on. -/
def strides (count step : Nat) : List Nat :=
  (List.range count).filter (· % step = 0)

/-- The chunks of a text. Without a positive size the text is its only chunk. -/
def chunksOrTrap (s : List Char) (size overlap : Int) : Except Trap (List (List Char)) :=
  if size ≤ 0 then .ok [s]
  else do
    let count ← difference (bounds s).length 1
    (strides count (chunkStep size overlap)).mapM fun start => do
      let stop := min (saturatingAdd start size.toNat) count
      slice s (← numberAt (bounds s) start) (← numberAt (bounds s) stop)

/-- The chunks of a text, which is never cut inside a character. -/
def chunks (s : List Char) (size overlap : Int) : List (List Char) :=
  untrapped [] (chunksOrTrap s size overlap)

end LuaSession.Text
