import LuaSession.Search.Hit

/-!
# Matches come in order

A search goes on where the match before ended. So the matches of a text ascend and do not overlap,
and the first of them is the one that is found from the beginning.

* `Pattern.allMatches_inOrder`: matches as pairs of characters.
* `Search.firstSpan_eq`: the first match and the first of all matches.
-/

namespace LuaSession

namespace Pattern

/-- Pairs from `low` on that ascend, do not overlap and end by `high`. -/
inductive InOrder (high : Nat) : (low : Nat) → List (Nat × Nat) → Prop where
  | nil {low : Nat} : low ≤ high → InOrder high low []
  | cons {low : Nat} {m : Nat × Nat} {ms : List (Nat × Nat)} :
      low ≤ m.1 → m.1 ≤ m.2 → InOrder high m.2 ms → InOrder high low (m :: ms)

namespace InOrder

variable {low high : Nat} {ms : List (Nat × Nat)}

theorem le (h : InOrder high low ms) : low ≤ high := by
  induction h with
  | nil h => exact h
  | cons hlow hle _ ih => exact Nat.le_trans hlow (Nat.le_trans hle ih)

theorem mono {least : Nat} (h : InOrder high low ms) (hleast : least ≤ low) :
    InOrder high least ms := by
  cases h with
  | nil h => exact .nil (Nat.le_trans hleast h)
  | cons hlow hle h => exact .cons (Nat.le_trans hleast hlow) hle h

/-- Some of the pairs are in order too. -/
theorem sublist {part : List (Nat × Nat)} (h : InOrder high low ms) (hpart : part.Sublist ms) :
    InOrder high low part := by
  induction hpart generalizing low with
  | slnil => exact h
  | cons m _ ih =>
    cases h with
    | cons hlow hle h => exact ih (h.mono (Nat.le_trans hlow hle))
  | cons_cons m _ ih =>
    cases h with
    | cons hlow hle h => exact .cons hlow hle (ih h)

theorem bounds_of_mem (h : InOrder high low ms) :
    ∀ m ∈ ms, low ≤ m.1 ∧ m.1 ≤ m.2 ∧ m.2 ≤ high := by
  induction h with
  | nil _ => exact fun _ hm => nomatch hm
  | cons hlow hle h ih =>
    refine List.forall_mem_cons.2 ⟨⟨hlow, hle, h.le⟩, fun m hm => ?_⟩
    obtain ⟨hm₁, hm₂⟩ := ih m hm
    exact ⟨Nat.le_trans hlow (Nat.le_trans hle hm₁), hm₂⟩

theorem pairwise (h : InOrder high low ms) : ms.Pairwise fun m n => m.2 ≤ n.1 := by
  induction h with
  | nil _ => exact .nil
  | cons _ _ h ih => exact .cons (fun n hn => (h.bounds_of_mem n hn).1) ih

end InOrder

theorem matchesFrom_inOrder (p : Program) (text : Array Char) (fuel : Nat) {start : Nat}
    (last : Option Nat) (h : start ≤ text.size) :
    InOrder text.size start (matchesFrom p text fuel start last) := by
  induction fuel generalizing start last with
  | zero => exact .nil h
  | succ fuel ih =>
    unfold matchesFrom
    cases nextMatch? p text start last with
    | none => exact .nil h
    | some m => exact .cons m.low_le_start m.start_le_stop (ih (some m.stop) m.stop_le_high)

/-- The matches of a text ascend and do not overlap. -/
theorem allMatches_inOrder (p : Program) (text : Array Char) :
    InOrder text.size 0 (allMatches p text) :=
  matchesFrom_inOrder p text _ none (Nat.zero_le _)

/-- The first of all matches is the one found from the beginning. -/
theorem head?_allMatches (p : Program) (text : Array Char) :
    (allMatches p text).head? = (find? p text 0).map fun m => (m.start, m.stop) := by
  unfold allMatches matchesFrom nextMatch?
  cases find? p text 0 with
  | none => rfl
  | some m =>
    have hfresh : (m.start == m.stop && none == some m.stop) = false := by
      rw [show (none == some m.stop) = false from rfl, Bool.and_false]
    simp only [hfresh]
    rfl

end Pattern

namespace Search

open LuaSession.Text

theorem spans_inOrder (p : Pattern.Program) (s : List Char) :
    Pattern.InOrder s.length 0 (Pattern.allMatches p s.toArray) :=
  Pattern.allMatches_inOrder p s.toArray

theorem firstSpan_eq (p : Pattern.Program) (s : List Char) :
    firstSpan p s = (Pattern.allMatches p s.toArray).head?.map (inBytes s) := by
  rw [Pattern.head?_allMatches, Option.map_map]
  rfl

end Search

end LuaSession
