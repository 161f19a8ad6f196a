import LuaSession.Proofs.Text.Lines
import LuaSession.Search.Line

/-!
# Lines by number and by pattern

Four ways to look at the lines of a text agree: how many there are, the line under a number, the
numbered lines that a pattern matches, and their count. They tell a text from its lines, and line ends
of both kinds give the same lines.

* `mem_linesWhere`: what is listed among numbered lines.
* `lines_agree`: for every text and every pattern.
-/

namespace LuaSession.Search

open LuaSession.Text

variable {p : List Char → Bool} {ls : List (List Char)} {n : Nat}

/-! ### Numbered lines -/

/-- A place among numbered lines, as a line with its number. -/
def numbered (e : List Char × Nat) : NumberedLine :=
  ⟨e.2, e.1⟩

/-- What is listed are the lines that satisfy the condition, numbered before. -/
theorem linesWhere_eq (p : List Char → Bool) (n : Nat) (ls : List (List Char)) :
    linesWhere p n ls = ((ls.zipIdx n).filter fun e => p e.1).map numbered := by
  induction ls generalizing n with
  | nil => rfl
  | cons l ls ih =>
    rw [linesWhere, List.zipIdx_cons, List.filter_cons, ih]
    by_cases hl : p l = true
    · simp [hl, numbered]
    · simp [hl]

/-- A line is listed under its number, if it satisfies the condition. -/
theorem mem_linesWhere {l : NumberedLine} :
    l ∈ linesWhere p n ls ↔ n ≤ l.number ∧ ls[l.number - n]? = some l.line ∧ p l.line = true := by
  rw [linesWhere_eq, List.mem_map]
  constructor
  · rintro ⟨⟨line, number⟩, hmem, rfl⟩
    obtain ⟨hindex, hp⟩ := List.mem_filter.mp hmem
    obtain ⟨hle, hget⟩ := List.mem_zipIdx_iff_le_and_getElem?_sub.mp hindex
    exact ⟨hle, hget, hp⟩
  · rintro ⟨hle, hget, hp⟩
    refine ⟨(l.line, l.number), List.mem_filter.mpr ⟨?_, hp⟩, rfl⟩
    exact List.mem_zipIdx_iff_le_and_getElem?_sub.mpr ⟨hle, hget⟩

/-- The numbers ascend. -/
theorem linesWhere_ascend (p : List Char → Bool) (n : Nat) (ls : List (List Char)) :
    ((linesWhere p n ls).map (·.number)).Pairwise (· < ·) := by
  have hnumbers : (linesWhere p n ls).map (·.number) =
      ((ls.zipIdx n).filter fun e => p e.1).map Prod.snd := by
    rw [linesWhere_eq, List.map_map]
    rfl
  have hrange : ((ls.zipIdx n).map Prod.snd).Pairwise (· < ·) := by
    rw [List.zipIdx_map_snd]
    exact List.pairwise_lt_range' _
  rw [hnumbers]
  exact hrange.sublist (List.filter_sublist.map Prod.snd)

theorem length_linesWhere (p : List Char → Bool) (n : Nat) (ls : List (List Char)) :
    (linesWhere p n ls).length = (ls.filter p).length := by
  induction ls generalizing n with
  | nil => rfl
  | cons l ls ih =>
    rw [linesWhere, List.filter_cons]
    split
    · rw [List.length_cons, List.length_cons, ih]
    · exact ih (n + 1)

/-! ### Lines of a text -/

variable {s : List Char}

/-- A line is listed exactly under the number under which it is the line of the text. -/
theorem mem_linesWhere_lines {l : NumberedLine} :
    l ∈ linesWhere p 1 (lines s) ↔
      (1 ≤ l.number ∧ l.number ≤ (lines s).length) ∧ l.line = line s l.number ∧ p l.line = true := by
  obtain ⟨number, text⟩ := l
  rw [mem_linesWhere]
  cases number with
  | zero => simp
  | succ i =>
    have hline : line s (i + 1 : Nat) = ((lines s)[i]?).getD [] := line_succ s i
    dsimp only
    rw [hline, Nat.add_sub_cancel]
    constructor
    · rintro ⟨hone, hget, hp⟩
      obtain ⟨hi, -⟩ := List.getElem?_eq_some_iff.mp hget
      exact ⟨⟨hone, hi⟩, by rw [hget, Option.getD_some], hp⟩
    · rintro ⟨⟨hone, hi⟩, htext, hp⟩
      rw [List.getElem?_eq_getElem hi, Option.getD_some] at htext
      exact ⟨hone, by rw [htext, List.getElem?_eq_getElem hi], hp⟩

/-- **Lines are the same however they are asked for.** A number is listed exactly if there is a line of
this number that the pattern matches; it is listed once, with this line, and numbers ascend. Under any
other number the line is empty. The lines with their ends make the text, and a carriage return in front
of every line feed changes nothing, if there was none before. -/
theorem lines_agree {pattern : List Char} {p : Pattern.Program}
    (compiles : Pattern.compile pattern false = .ok p) (s : List Char) :
    ∃ total found, countLines s none = .ok total ∧ findLines s pattern = .ok found ∧
      countLines s (some pattern) = .ok found.length ∧
      (∀ k : Int, (∃ l ∈ found, (l.number : Int) = k) ↔
        (1 ≤ k ∧ k ≤ total) ∧ Pattern.isMatch p (line s k).toArray = true) ∧
      (found.map (·.number)).Pairwise (· < ·) ∧ (∀ l ∈ found, l.line = line s l.number) ∧
      (∀ k : Int, k < 1 ∨ total < k → line s k = []) ∧
      MadeOf ((List.range total).map fun i : Nat => line s (i + 1)) s ∧
      ('\r' ∉ s → findLines (returned s) pattern = .ok found ∧
        countLines (returned s) none = .ok total ∧
        countLines (returned s) (some pattern) = .ok found.length ∧
        ∀ k, line (returned s) k = line s k) := by
  have hfound (t : List Char) : findLines t pattern = .ok (linesWhere
      (fun l => Pattern.isMatch p l.toArray) 1 (lines t)) := by
    rw [findLines, compiles, Except.map]
  have hcount (t : List Char) : countLines t (some pattern) = .ok (linesWhere
      (fun l => Pattern.isMatch p l.toArray) 1 (lines t)).length := by
    rw [countLines, compiles, Except.map, length_linesWhere]
  refine ⟨_, _, rfl, hfound s, hcount s, fun k => ?_, linesWhere_ascend _ _ _, fun l hl => ?_,
    fun k => line_eq_nil, ?_, fun hs => ?_⟩
  · constructor
    · rintro ⟨l, hl, rfl⟩
      obtain ⟨⟨hone, hle⟩, hline, hmatch⟩ := mem_linesWhere_lines.mp hl
      rw [← hline]
      exact ⟨⟨by omega, by omega⟩, hmatch⟩
    · rintro ⟨⟨hone, hle⟩, hmatch⟩
      obtain ⟨i, rfl⟩ := Int.eq_ofNat_of_zero_le (Int.le_trans (by decide) hone)
      have hi : 1 ≤ i ∧ i ≤ (lines s).length := ⟨by omega, by omega⟩
      exact ⟨⟨i, line s i⟩, mem_linesWhere_lines.mpr ⟨hi, rfl, hmatch⟩, rfl⟩
  · exact (mem_linesWhere_lines.mp hl).2.1
  · rw [map_line_range]
    exact made_of_lines s
  · have hlines := lines_returned s hs
    refine ⟨by rw [hfound, hlines], by rw [countLines, hlines], by rw [hcount, hlines], fun k => ?_⟩
    rw [line, hlines, ← line]

/-- Three lines, the second one empty. Two are listed, whichever line ends are used. -/
theorem lines_agree_three : ∃ p, Pattern.compile ".$".toList false = .ok p ∧
    findLines "A\n\nba\n".toList ".$".toList = .ok [⟨1, ['A']⟩, ⟨3, ['b', 'a']⟩] ∧
    countLines "A\n\nba\n".toList none = .ok 3 ∧ '\r' ∉ "A\n\nba\n".toList ∧
    findLines "A\r\n\r\nba\r\n".toList ".$".toList = .ok [⟨1, ['A']⟩, ⟨3, ['b', 'a']⟩] ∧
    MadeOf [['A'], [], ['b', 'a']] "A\n\nba\n".toList := by
  obtain ⟨p, compiles⟩ : ∃ p, Pattern.compile ".$".toList false = .ok p := ⟨_, rfl⟩
  have hfound : findLines "A\n\nba\n".toList ".$".toList =
      .ok [⟨1, ['A']⟩, ⟨3, ['b', 'a']⟩] := rfl
  have hthree : countLines "A\n\nba\n".toList none = .ok 3 := rfl
  have hreturn : '\r' ∉ "A\n\nba\n".toList := by decide
  obtain ⟨total, found, htotal, hlisted, -, -, -, -, -, hmade, hreturned⟩ :=
    lines_agree compiles "A\n\nba\n".toList
  obtain rfl : 3 = total := Except.ok.inj (hthree.symm.trans htotal)
  obtain rfl := Except.ok.inj (hfound.symm.trans hlisted)
  exact ⟨p, compiles, hfound, hthree, hreturn, (hreturned hreturn).1, hmade⟩

end LuaSession.Search
