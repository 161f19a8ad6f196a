import LuaSession.Text.Lines
import Mathlib.Data.List.Basic

/-!
# Lines and what ends them

A text without a line feed is one piece, and the first line feed ends the first piece. Whatever is
told of the lines of a text is told along this. A line is ended by a line feed, with or without a
carriage return in front of it, and only the last line may lack both.

* `stopInduction`: the induction over the pieces of a sequence.
* `lines_stopped`, `lines_unstopped`: the first line of a text.
* `lines_returned`: carriage returns in front of all line feeds make no difference.
* `made_of_lines`: a text is made of its lines.
-/

namespace LuaSession.Text

variable {α : Type} [DecidableEq α] {stop : α} {s t : List α}

/-! ### Pieces -/

/-- What holds of every sequence without a stop, and of one with a stop if it holds of what comes after
the first stop, holds of all sequences. -/
@[elab_as_elim]
theorem stopInduction {motive : List α → Prop} (stop : α) (s : List α)
    (unstopped : ∀ s, stop ∉ s → motive s)
    (stopped : ∀ s t, stop ∉ s → motive t → motive (s ++ stop :: t)) : motive s := by
  induction hlength : s.length using Nat.strongRecOn generalizing s with
  | ind n ih =>
    by_cases hstop : stop ∈ s
    · obtain ⟨a, b, rfl, ha⟩ := List.eq_append_cons_of_mem hstop
      refine stopped a b ha (ih b.length ?_ b rfl)
      rw [← hlength, List.length_append, List.length_cons]
      omega
    · exact unstopped s hstop

/-- The first stop ends the first piece. -/
theorem pieces_stopped (h : stop ∉ s) (t : List α) :
    pieces stop (s ++ stop :: t) = (s ++ [stop]) :: pieces stop t := by
  induction s with
  | nil => simp [pieces]
  | cons c s ih =>
    obtain ⟨hc, hs⟩ := not_or.mp (mt List.mem_cons.mpr h)
    simp [pieces, Ne.symm hc, ih hs]

/-- Without a stop there is one piece, if there is anything. -/
theorem pieces_unstopped (h : stop ∉ s) (hs : s ≠ []) : pieces stop s = [s] := by
  induction s with
  | nil => exact absurd rfl hs
  | cons c s ih =>
    obtain ⟨hc, hstop⟩ := not_or.mp (mt List.mem_cons.mpr h)
    by_cases hnil : s = []
    · simp [pieces, Ne.symm hc, hnil]
    · simp [pieces, Ne.symm hc, ih hstop hnil]

/-! ### Marks in front of stops -/

/-- The sequence with a mark in front of every stop. -/
def marked (stop mark : α) (s : List α) : List α :=
  s.flatMap fun c => if c = stop then [mark, stop] else [c]

theorem marked_unstopped (mark : α) (h : stop ∉ s) : marked stop mark s = s := by
  induction s with
  | nil => rfl
  | cons c s ih =>
    obtain ⟨hc, hs⟩ := not_or.mp (mt List.mem_cons.mpr h)
    rw [marked, List.flatMap_cons, if_neg (Ne.symm hc)]
    exact congrArg (c :: ·) (ih hs)

theorem marked_stopped (mark : α) (h : stop ∉ s) (t : List α) :
    marked stop mark (s ++ stop :: t) = s ++ mark :: stop :: marked stop mark t := by
  have hs := marked_unstopped mark h
  rw [marked] at hs
  rw [marked, List.flatMap_append, hs, List.flatMap_cons, if_pos rfl]
  rfl

/-- The text with a carriage return in front of every line feed. -/
def returned (s : List Char) : List Char :=
  marked '\n' '\r' s

/-! ### Lines -/

variable {a b : List Char}

theorem chomp_unstopped (h : '\n' ∉ a) : chomp a = a := by
  induction a with
  | nil => rfl
  | cons c a ih =>
    obtain ⟨hc, ha⟩ := not_or.mp (mt List.mem_cons.mpr h)
    rw [chomp, ih ha]
    · rintro rfl rfl
      exact hc rfl
    · rintro rfl rfl
      simp at ha

theorem chomp_cons {c : Char} (hfeed : c :: a ≠ ['\n']) (hreturn : c :: a ≠ ['\r', '\n']) :
    chomp (c :: a) = c :: chomp a := by
  rw [chomp]
  · rintro rfl rfl
    exact hfeed rfl
  · rintro rfl rfl
    exact hreturn rfl

/-- A carriage return in front of the line feed is not part of the line. -/
theorem chomp_return (a : List Char) : chomp (a ++ ['\r', '\n']) = a := by
  induction a with
  | nil => rfl
  | cons c a ih =>
    have hlonger : c :: (a ++ ['\r', '\n']) ≠ ['\r', '\n'] := by
      intro heq
      have hlength := congrArg List.length heq
      simp at hlength
    rw [List.cons_append, chomp_cons (by simp) hlonger, ih]

/-- A line feed is not part of the line. -/
theorem chomp_feed (h : '\r' ∉ a) : chomp (a ++ ['\n']) = a := by
  induction a with
  | nil => rfl
  | cons c a ih =>
    obtain ⟨hc, ha⟩ := not_or.mp (mt List.mem_cons.mpr h)
    rw [List.cons_append, chomp_cons (by simp) (by simp [Ne.symm hc]), ih ha]

/-- What ends a line. -/
def IsLineEnd (e : List Char) : Prop :=
  e = ['\n'] ∨ e = ['\r', '\n']

/-- What was cut off a piece is what ends its line. -/
theorem chomp_append_end (a : List Char) :
    ∃ e, IsLineEnd e ∧ chomp (a ++ ['\n']) ++ e = a ++ ['\n'] := by
  induction a with
  | nil => exact ⟨['\n'], .inl rfl, rfl⟩
  | cons c a ih =>
    by_cases hreturn : c :: (a ++ ['\n']) = ['\r', '\n']
    · refine ⟨['\r', '\n'], .inr rfl, ?_⟩
      rw [List.cons_append, hreturn]
      rfl
    · obtain ⟨e, he, hsplit⟩ := ih
      refine ⟨e, he, ?_⟩
      rw [List.cons_append, chomp_cons (by simp) hreturn, List.cons_append, hsplit]

theorem lines_unstopped (h : '\n' ∉ a) (ha : a ≠ []) : lines a = [a] := by
  rw [lines, pieces_unstopped h ha, List.map_singleton, chomp_unstopped h]

theorem lines_stopped (h : '\n' ∉ a) (b : List Char) :
    lines (a ++ '\n' :: b) = chomp (a ++ ['\n']) :: lines b := by
  rw [lines, pieces_stopped h, List.map_cons, ← lines]

/-- A text without carriage returns has the same lines with one in front of every line feed. -/
theorem lines_returned (s : List Char) (h : '\r' ∉ s) : lines (returned s) = lines s := by
  induction s using stopInduction '\n' with
  | unstopped s hs => rw [returned, marked_unstopped _ hs]
  | stopped a b ha ih =>
    have hreturn : '\r' ∉ a := fun hmem => h (List.mem_append_left _ hmem)
    have hrest : '\r' ∉ b := fun hmem => h (List.mem_append_right _ (List.mem_cons_of_mem _ hmem))
    have hsplit : returned (a ++ '\n' :: b) = (a ++ ['\r']) ++ '\n' :: returned b := by
      rw [returned, marked_stopped _ ha, returned, List.append_assoc, List.singleton_append]
    have hfeed : '\n' ∉ a ++ ['\r'] := by simpa using ha
    rw [hsplit, lines_stopped hfeed, lines_stopped ha, ih hrest, List.append_assoc,
      List.singleton_append, chomp_return, chomp_feed hreturn]

/-! ### The text from its lines -/

/-- The text is made of the lines, each with what ends it; the last one may go on to the end of the
text, if there is anything in it. -/
inductive MadeOf : List (List Char) → List Char → Prop
  | nil : MadeOf [] []
  | last {line : List Char} : line ≠ [] → MadeOf [line] line
  | cons {line e rest : List Char} {ls : List (List Char)} :
      IsLineEnd e → MadeOf ls rest → MadeOf (line :: ls) (line ++ (e ++ rest))

theorem made_of_lines (s : List Char) : MadeOf (lines s) s := by
  induction s using stopInduction '\n' with
  | unstopped s hs =>
    by_cases hnil : s = []
    · subst hnil
      exact .nil
    · rw [lines_unstopped hs hnil]
      exact .last hnil
  | stopped a b ha ih =>
    obtain ⟨e, he, hsplit⟩ := chomp_append_end a
    have hmade : MadeOf (chomp (a ++ ['\n']) :: lines b) (chomp (a ++ ['\n']) ++ (e ++ b)) :=
      .cons he ih
    rw [← List.append_assoc, hsplit, List.append_assoc] at hmade
    rw [lines_stopped ha]
    exact hmade

/-! ### Lines by their numbers -/

/-- Lines are counted from 1. -/
theorem line_succ (s : List Char) (i : Nat) : line s (i + 1) = ((lines s)[i]?).getD [] := by
  have hpos : ¬(i : Int) + 1 ≤ 0 := by omega
  have hindex : ((i : Int) + 1).toNat - 1 = i := by omega
  rw [line, if_neg hpos, hindex]

/-- The lines are those with numbers up to their count. -/
theorem map_line_range (s : List Char) :
    ((List.range (lines s).length).map fun i : Nat => line s (i + 1)) = lines s := by
  refine List.ext_getElem (by simp) fun i hi hi' => ?_
  rw [List.getElem_map, List.getElem_range, line_succ, List.getElem?_eq_getElem hi',
    Option.getD_some]

/-- There is no line under any other number. -/
theorem line_eq_nil {k : Int} (h : k < 1 ∨ (lines a).length < k) : line a k = [] := by
  rw [line]
  split
  · rfl
  · rw [List.getElem?_eq_none (by omega), Option.getD_none]

end LuaSession.Text
