/-!
# Sets of characters as ranges

A set of code points is a list of ranges, each with its first and last code point, in order, apart
from each other and with a gap between any two. The tables of the standard are kept packed in
texts of letters: for each range the gap before it and one less than its size, each number in base
26 with the last digit as a capital.

* `mem_complement`: the complement holds exactly the code points that the set does not hold.
-/

namespace LuaSession.Unicode

/-- Ranges of code points, in order and apart from each other. -/
abbrev Ranges := List (Nat × Nat)

/-- The greatest code point. -/
def maxCode : Nat := 0x10FFFF

namespace Ranges

/-- Whether a code point lies in one of the ranges. -/
def mem (n : Nat) (rs : Ranges) : Bool :=
  rs.any fun r => r.1 ≤ n && n ≤ r.2

/-- Joins ranges that touch; the first components are in order. -/
def joinFrom (current : Nat × Nat) : List (Nat × Nat) → Ranges
  | [] => [current]
  | r :: rest =>
    if r.1 ≤ current.2 + 1 then joinFrom (current.1, max current.2 r.2) rest
    else current :: joinFrom r rest

/-- Joins ranges that touch. -/
def join : List (Nat × Nat) → Ranges
  | [] => []
  | r :: rest => joinFrom r rest

/-- The set with these ranges, given in any order. -/
def ofList (rs : List (Nat × Nat)) : Ranges :=
  join (rs.mergeSort fun a b => a.1 ≤ b.1)

/-- Both sets together. -/
def union (a b : Ranges) : Ranges :=
  match a, b with
  | [], b => b
  | a, [] => a
  | a, b => ofList (a ++ b)

/-- The code points from `low` on that are in none of the ranges. -/
def complementFrom (low : Nat) : Ranges → Ranges
  | [] => if low ≤ maxCode then [(low, maxCode)] else []
  | (a, b) :: rest =>
    if low < a then (low, a - 1) :: complementFrom (b + 1) rest else complementFrom (b + 1) rest

/-- The code points that are in none of the ranges. -/
def complement (rs : Ranges) : Ranges :=
  complementFrom 0 rs

/-- The code points of both sets. -/
def inter (a b : Ranges) : Ranges :=
  complement (union (complement a) (complement b))

/-- The code points of the first set that are not in the second. -/
def diff (a b : Ranges) : Ranges :=
  complement (union (complement a) b)

/-- The code points of exactly one of the sets. -/
def symmDiff (a b : Ranges) : Ranges :=
  diff (union a b) (inter a b)

/-- Whether all the code points are below 128. -/
def isAscii (rs : Ranges) : Bool :=
  rs.all fun r => r.2 < 128

/-- Ranges in order, each beginning at `low` or later. -/
inductive Ordered : Nat → Ranges → Prop
  | nil (low : Nat) : Ordered low []
  | cons {low a b : Nat} {rest : Ranges} :
    low ≤ a → a ≤ b → Ordered (b + 1) rest → Ordered low ((a, b) :: rest)

theorem mem_nil (n : Nat) : mem n [] = false := rfl

theorem mem_cons (n a b : Nat) (rest : Ranges) :
    mem n ((a, b) :: rest) = true ↔ (a ≤ n ∧ n ≤ b) ∨ mem n rest = true := by
  simp [mem]

theorem Ordered.le_of_mem {low : Nat} {rs : Ranges} (h : Ordered low rs) {n : Nat}
    (hn : mem n rs = true) : low ≤ n := by
  induction h with
  | nil => simp [mem_nil] at hn
  | cons hl hab _ ih =>
    rcases (mem_cons ..).1 hn with h1 | h1
    · omega
    · have := ih h1; omega

theorem mem_complementFrom {low : Nat} {rs : Ranges} (h : Ordered low rs) {n : Nat}
    (hn : n ≤ maxCode) :
    mem n (complementFrom low rs) = true ↔ low ≤ n ∧ ¬ mem n rs = true := by
  induction h with
  | nil low =>
    by_cases hl : low ≤ maxCode
    · simp [complementFrom, hl, mem_cons, mem_nil, hn]
    · have : ¬ low ≤ n := by omega
      simp [complementFrom, hl, mem_nil, this]
  | @cons low a b rest hl hab hr ih =>
    have hb : mem n rest = true → b + 1 ≤ n := hr.le_of_mem
    rw [complementFrom, mem_cons]
    by_cases hla : low < a
    · rw [if_pos hla, mem_cons, ih]
      by_cases hm : mem n rest = true
      · have := hb hm; simp [hm]; omega
      · simp [hm]; omega
    · rw [if_neg hla, ih]
      by_cases hm : mem n rest = true
      · have := hb hm; simp [hm]
      · simp [hm]; omega

/-- The complement holds exactly the code points that the set does not hold. -/
theorem mem_complement {rs : Ranges} (h : Ordered 0 rs) {n : Nat} (hn : n ≤ maxCode) :
    mem n (complement rs) = true ↔ ¬ mem n rs = true := by
  simp [complement, mem_complementFrom h hn]

end Ranges

/-! ### Packed tables -/

/-- Reads packed numbers: `acc` and `scale` belong to the number that is being read. -/
def unpackNumbers (acc scale : Nat) : List Char → List Nat
  | [] => []
  | c :: r =>
    if 'a' ≤ c then unpackNumbers (acc + (c.toNat - 97) * scale) (scale * 26) r
    else (acc + (c.toNat - 65) * scale) :: unpackNumbers 0 1 r

/-- Ranges from gaps and sizes; `low` is the first code point after the last range. -/
def rangesFrom (low : Nat) : List Nat → Ranges
  | gap :: size :: rest => (low + gap, low + gap + size) :: rangesFrom (low + gap + size + 1) rest
  | _ => []

/-- The ranges of a packed table. -/
def unpack (packed : List String) : Ranges :=
  rangesFrom 0 (unpackNumbers 0 1 (packed.flatMap String.toList))

/-- A property of characters: its names in normal form and its packed ranges. -/
structure Property where
  names : List String
  packed : List String

/-- The characters with the property. -/
def Property.ranges (p : Property) : Ranges :=
  unpack p.packed

/-- The first property with this name. -/
def Property.find? (name : String) (ps : List Property) : Option Property :=
  ps.find? fun p => p.names.contains name

/-- A name in normal form: small letters, no blank, hyphen or low line, and no leading "is". -/
def normalName (name : List Char) : String :=
  let strip (s : List Char) : List Char :=
    (s.filter fun c => c != ' ' && c != '_' && c != '-' && c.toNat < 128).map Char.toLower
  match name with
  | i :: s :: rest =>
    if (i == 'i' || i == 'I') && (s == 's' || s == 'S') then
      if strip rest == ['c'] then "isc" else String.ofList (strip rest)
    else String.ofList (strip name)
  | _ => String.ofList (strip name)

end LuaSession.Unicode
