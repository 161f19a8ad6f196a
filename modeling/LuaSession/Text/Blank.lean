/-!
# Blank characters

The characters with the Unicode property White_Space, and trimming by them.

* `trim_eq_nil_iff`: a text is blank exactly when all its characters are.
-/

namespace LuaSession.Text

/-- The characters that count as white space. -/
def isBlank (c : Char) : Bool :=
  let n := c.toNat
  (0x09 ≤ n && n ≤ 0x0D) || n == 0x20 || n == 0x85 || n == 0xA0 || n == 0x1680 ||
    (0x2000 ≤ n && n ≤ 0x200A) || n == 0x2028 || n == 0x2029 || n == 0x202F ||
    n == 0x205F || n == 0x3000

/-- Every character that the core library calls white space is blank. -/
theorem isBlank_of_isWhitespace {c : Char} (h : c.isWhitespace = true) : isBlank c = true := by
  simp only [Char.isWhitespace, Bool.or_eq_true, decide_eq_true_eq] at h
  rcases h with ((h | h) | h) | h <;> subst h <;> decide

/-- Drops the characters at the end that satisfy `p`. -/
def dropWhileEnd (p : Char → Bool) : List Char → List Char
  | [] => []
  | c :: r =>
    match dropWhileEnd p r with
    | [] => if p c then [] else [c]
    | r' => c :: r'

/-- The text without the blank characters at its two ends. -/
def trim (s : List Char) : List Char :=
  dropWhileEnd isBlank (s.dropWhile isBlank)

/-- Whether the text holds nothing but blank characters. -/
def isBlankText (s : List Char) : Bool :=
  s.all isBlank

theorem dropWhileEnd_eq_nil_iff (p : Char → Bool) (s : List Char) :
    dropWhileEnd p s = [] ↔ s.all p = true := by
  induction s with
  | nil => simp [dropWhileEnd]
  | cons c r ih =>
    cases hr : dropWhileEnd p r with
    | nil =>
      have hall := ih.1 hr
      by_cases hc : p c = true <;> simp_all [dropWhileEnd]
    | cons d r' =>
      have hall : ¬ r.all p = true := fun h => by simp [ih.2 h] at hr
      simp_all [dropWhileEnd]

/-- The last character decides first. -/
theorem dropWhileEnd_concat (p : Char → Bool) (s : List Char) (c : Char) :
    dropWhileEnd p (s ++ [c]) = if p c then dropWhileEnd p s else s ++ [c] := by
  induction s with
  | nil => rfl
  | cons d s ih =>
    rw [List.cons_append, dropWhileEnd, ih]
    by_cases hc : p c = true
    · rw [if_pos hc, if_pos hc, dropWhileEnd]
    · rw [if_neg hc, if_neg hc]
      cases s <;> rfl

/-- Trimming leaves nothing exactly of blank text. -/
theorem trim_eq_nil_iff (s : List Char) : trim s = [] ↔ isBlankText s = true := by
  rw [trim, dropWhileEnd_eq_nil_iff, isBlankText]
  induction s with
  | nil => simp
  | cons c r ih => by_cases hc : isBlank c = true <;> simp_all

end LuaSession.Text
