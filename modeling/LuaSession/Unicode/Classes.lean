import LuaSession.Unicode.Category
import LuaSession.Unicode.Property

/-!
# Classes of characters

Word characters, digits and blanks as sets of ranges, and which characters a quoted text shows as
they are.
-/

namespace LuaSession.Unicode

/-- The union of a category or property by its name in normal form. -/
def named (name : String) : Ranges :=
  ((categoryRanges? name).orElse fun _ => propertyRanges? name).getD []

/-- The characters of words: letters, marks, decimal digits, connectors and joiners. -/
def wordRanges : Ranges :=
  Ranges.ofList (["alphabetic", "m", "nd", "pc", "joincontrol"].flatMap named)

/-- The decimal digits of all scripts. -/
def digitRanges : Ranges := named "nd"

/-- The blank characters. -/
def spaceRanges : Ranges := named "whitespace"

/-- The letters of all scripts. -/
def alphabeticRanges : Ranges := named "alphabetic"

/-- The letters and the numbers of all scripts. -/
def alphanumericRanges : Ranges :=
  Ranges.ofList (alphabeticRanges ++ named "n")

/-- The marks that join the character before them. -/
def extendingRanges : Ranges := named "graphemeextend"

/-- The characters with a visible form. -/
def visibleRanges : Ranges :=
  (Ranges.ofList (["cc", "cf", "cs", "co", "zl", "zp", "zs", "cn"].flatMap named)).complement

/-- Ranges in an array, for look-up by halving. -/
def inTable (table : Array (Nat × Nat)) (n : Nat) : (fuel low high : Nat) → Bool
  | 0, _, _ => false
  | fuel + 1, low, high =>
    if low < high then
      let mid := (low + high) / 2
      match table[mid]? with
      | some (a, b) =>
        if n < a then inTable table n fuel low mid
        else if b < n then inTable table n fuel (mid + 1) high
        else true
      | none => false
    else false

/-- The word characters as a table. -/
def wordTable : Array (Nat × Nat) := wordRanges.toArray

/-- Whether the character belongs to words. -/
def isWord (c : Char) : Bool :=
  if c.toNat < 128 then c.isAlphanum || c == '_'
  else inTable wordTable c.toNat 32 0 wordTable.size

/-- Whether the character is a letter of any script. -/
def isAlphabetic (c : Char) : Bool :=
  if c.toNat < 128 then c.isAlpha else alphabeticRanges.mem c.toNat

/-- Whether the character is a letter or a number of any script. -/
def isAlphanumeric (c : Char) : Bool :=
  if c.toNat < 128 then c.isAlphanum else alphanumericRanges.mem c.toNat

end LuaSession.Unicode
