import LuaSession.Pattern.Program

/-!
# Matching

A program is run over a text by following all ways through it at once, the preferred ones first.
A way that accepts drops all ways behind it. The match found begins at the leftmost place possible
and among the matches there is the preferred one.

`matchesFrom` lists the matches of a text in order: each search begins where the match before ended,
and an empty match at that place is passed over.

* `Match.start_le_stop`: a match is a span of the text.
-/

namespace LuaSession.Pattern

open LuaSession.Unicode

/-- A span of a text, counted in characters, within bounds. -/
structure Match (low high : Nat) where
  start : Nat
  stop : Nat
  low_le_start : low ≤ start
  start_le_stop : start ≤ stop
  stop_le_high : stop ≤ high

/-- Whether a character belongs to words. -/
def wordAt (ascii : Bool) : Option Char → Bool
  | none => false
  | some c => if ascii then c.isAlphanum || c == '_' else isWord c

/-- Whether the condition holds between two characters, where `none` is an end of the text. -/
def Look.holds (prev next : Option Char) : Look → Bool
  | .start => prev.isNone
  | .stop => next.isNone
  | .startLine => prev.isNone || prev == some '\n'
  | .stopLine => next.isNone || next == some '\n'
  | .startLineCrlf =>
    prev.isNone || prev == some '\n' || (prev == some '\r' && next != some '\n')
  | .stopLineCrlf =>
    next.isNone || next == some '\r' || (next == some '\n' && prev != some '\r')
  | .boundary ascii negated => (wordAt ascii prev != wordAt ascii next) != negated
  | .wordStart ascii => !wordAt ascii prev && wordAt ascii next
  | .wordEnd ascii => wordAt ascii prev && !wordAt ascii next
  | .wordStartHalf ascii => !wordAt ascii prev
  | .wordEndHalf ascii => !wordAt ascii next

/-- A way through the program: the place it is at and where in the text it began. -/
structure Thread where
  place : Nat
  origin : Nat

/-- The ways at one position, the preferred first, and when each place was last reached. -/
structure Front where
  threads : Array Thread
  seen : Array Nat

/-- Follows the places on the stack to the instructions that take a character or accept. `mark`
stands for the position, and `fuel` bounds the places visited. -/
def follow (code : Array Instr) (prev next : Option Char) (mark origin : Nat) :
    (fuel : Nat) → (stack : List Nat) → Front → Front
  | 0, _, f => f
  | _, [], f => f
  | fuel + 1, place :: stack, f =>
    if f.seen.getD place 0 == mark then follow code prev next mark origin fuel stack f
    else
      let f : Front := { f with seen := f.seen.setIfInBounds place mark }
      match code[place]? with
      | none => follow code prev next mark origin fuel stack f
      | some (.fork a b) => follow code prev next mark origin fuel (a :: b :: stack) f
      | some (.check l n) =>
        if l.holds prev next then follow code prev next mark origin fuel (n :: stack) f
        else follow code prev next mark origin fuel stack f
      | some _ =>
        follow code prev next mark origin fuel stack
          { f with threads := f.threads.push ⟨place, origin⟩ }

/-- Lets each way take the character, in order, up to the first that accepts; gives the origin of
the one that accepts and the ways after the character. -/
def advance (code : Array Instr) (c : Char) (next : Option Char) (mark fuel : Nat) :
    List Thread → Front → Option Nat × Front
  | [], f => (none, f)
  | t :: ts, f =>
    match code[t.place]? with
    | some .accept => (some t.origin, f)
    | some (.take table n) =>
      if inTable table c.toNat 32 0 table.size then
        advance code c next mark fuel ts (follow code (some c) next mark t.origin fuel [n] f)
      else advance code c next mark fuel ts f
    | _ => advance code c next mark fuel ts f

/-- The origin of the first way that accepts. -/
def accepted (code : Array Instr) (ts : Array Thread) : Option Nat :=
  (ts.find? fun t => match code[t.place]? with
    | some .accept => true
    | _ => false).map Thread.origin

/-- Goes over the rest of the text from position `at_` on; `best` is the match found so far. -/
def scan (p : Program) (fuel : Nat) (prev : Option Char) (pos : Nat) (f : Front)
    (best : Option (Nat × Nat)) : List Char → Option (Nat × Nat)
  | [] =>
    let f := if best.isNone then follow p.code prev none (pos + 1) pos fuel [p.start] f else f
    match accepted p.code f.threads with
    | some origin => some (origin, pos)
    | none => best
  | c :: r =>
    let f := if best.isNone then follow p.code prev (some c) (pos + 1) pos fuel [p.start] f else f
    let seen := f.seen
    let threads := f.threads.toList
    let (hit, f') := advance p.code c r.head? (pos + 2) fuel threads ⟨#[], seen⟩
    let best' := match hit with
      | some origin => some (origin, pos)
      | none => best
    if best'.isSome && f'.threads.isEmpty then best'
    else scan p fuel (some c) (pos + 1) f' best' r

/-- The preferred of the leftmost matches in `text` that begin at `start` or later, as a pair of
positions. -/
def searchFrom (p : Program) (text : Array Char) (start : Nat) : Option (Nat × Nat) :=
  let prev := if start == 0 then none else text[start - 1]?
  scan p (4 * p.code.size + 4) prev start ⟨#[], Array.replicate p.code.size 0⟩ none
    (text.toList.drop start)

/-- The preferred of the leftmost matches that begin at `start` or later. -/
def find? (p : Program) (text : Array Char) (start : Nat) : Option (Match start text.size) :=
  match searchFrom p text start with
  | some (a, b) =>
    if h : start ≤ a ∧ a ≤ b ∧ b ≤ text.size then some ⟨a, b, h.1, h.2.1, h.2.2⟩ else none
  | none => none

/-- Whether the program matches anywhere. -/
def isMatch (p : Program) (text : Array Char) : Bool :=
  (find? p text 0).isSome

/-- The next match from `start` on; `last` is where the match before ended, and no empty match is
given there. -/
def nextMatch? (p : Program) (text : Array Char) (start : Nat) (last : Option Nat) :
    Option (Match start text.size) :=
  match find? p text start with
  | none => none
  | some m =>
    if m.start == m.stop && last == some m.stop then
      (find? p text (start + 1)).map fun m =>
        ⟨m.start, m.stop, Nat.le_of_succ_le m.low_le_start, m.start_le_stop, m.stop_le_high⟩
    else some m

/-- The matches from `start` on, in order; `fuel` bounds their number. -/
def matchesFrom (p : Program) (text : Array Char) :
    (fuel : Nat) → (start : Nat) → (last : Option Nat) → List (Nat × Nat)
  | 0, _, _ => []
  | fuel + 1, start, last =>
    match nextMatch? p text start last with
    | none => []
    | some m => (m.start, m.stop) :: matchesFrom p text fuel m.stop (some m.stop)

/-- All matches of a text, in order. -/
def allMatches (p : Program) (text : Array Char) : List (Nat × Nat) :=
  matchesFrom p text (text.size + 2) 0 none

end LuaSession.Pattern
