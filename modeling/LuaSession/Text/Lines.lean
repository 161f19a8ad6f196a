/-!
# Lines

A text is cut after every terminator; what stands after the last one is a piece of its own when it
is not empty. A line is a piece without its terminator, which is a line feed or a carriage return
and a line feed. Lines are numbered from 1.

* `flatten_pieces`: the pieces put together are the text.
* `pieces_ne_nil`: no piece is empty.
-/

namespace LuaSession.Text

variable {α : Type} [DecidableEq α]

/-- Cuts a sequence after every `stop`. -/
def pieces (stop : α) : List α → List (List α)
  | [] => []
  | c :: r =>
    if c = stop then [c] :: pieces stop r
    else
      match pieces stop r with
      | [] => [[c]]
      | p :: ps => (c :: p) :: ps

/-- Cutting loses nothing. -/
theorem flatten_pieces (stop : α) (s : List α) : (pieces stop s).flatten = s := by
  induction s with
  | nil => rfl
  | cons c r ih =>
    by_cases h : c = stop
    · simp [pieces, h, ih]
    · cases hr : pieces stop r with
      | nil => rw [hr] at ih; simp_all [pieces]
      | cons p ps => rw [hr] at ih; simp_all [pieces]

/-- Every piece holds something. -/
theorem pieces_ne_nil (stop : α) (s : List α) : ∀ p ∈ pieces stop s, p ≠ [] := by
  induction s with
  | nil => simp [pieces]
  | cons c r ih =>
    by_cases h : c = stop
    · simpa [pieces, h] using ih
    · cases hr : pieces stop r with
      | nil => simp [pieces, h, hr]
      | cons p ps =>
        rw [hr] at ih
        simp only [pieces, h, hr, if_false]
        intro q hq
        rcases List.mem_cons.1 hq with rfl | hq
        · simp
        · exact ih q (List.mem_cons_of_mem _ hq)

/-- A piece without its terminator. -/
def chomp : List Char → List Char
  | [] => []
  | ['\n'] => []
  | ['\r', '\n'] => []
  | c :: r => c :: chomp r

/-- The lines of a text. -/
def lines (s : List Char) : List (List Char) :=
  (pieces '\n' s).map chomp

/-- Line `n` of a text, counted from 1; empty when there is none. -/
def line (s : List Char) (n : Int) : List Char :=
  if n ≤ 0 then [] else ((lines s)[n.toNat - 1]?).getD []

end LuaSession.Text
