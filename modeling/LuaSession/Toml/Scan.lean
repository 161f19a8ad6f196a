/-!
# Scanning

Scanners read a text from a cursor on. One that does not find what it looks for misses, and another
may be tried at the same place; once enough was read to know what was meant, a miss becomes a stop,
which ends the scan. A fault says where the scan got to, what was being read there and what could
have come next.

* `Scan.orElse_stop`: nothing is tried after a stop.
-/

namespace LuaSession.Toml

/-- A place in a text: what is left, and the number of bytes before it. -/
structure Cursor where
  rest : List Char
  offset : Nat := 0
  deriving Repr

/-- Why a scan failed: where, what was being read, the innermost first, what was expected, and a
cause of another kind. -/
structure Fault where
  offset : Nat
  labels : List String := []
  expected : List String := []
  cause : Option String := none
  deriving DecidableEq, Repr

/-- What a scanner comes to. -/
inductive Outcome (α : Type)
  | ok (a : α) (next : Cursor)
  | miss (f : Fault)
  | stop (f : Fault)

/-- A scanner. -/
def Scan (α : Type) : Type := Cursor → Outcome α

namespace Scan

variable {α β : Type}

instance : Monad Scan where
  pure a := fun c => .ok a c
  bind s f := fun c =>
    match s c with
    | .ok a c => f a c
    | .miss e => .miss e
    | .stop e => .stop e

/-! ### Failing -/

/-- Finds nothing. -/
def fail : Scan α := fun c => .miss { offset := c.offset }

/-- Finds nothing because of something that stands at a cursor. -/
def refuse (place : Cursor) (cause : String) : Scan α := fun _ =>
  .miss { offset := place.offset, cause := some cause }

/-- The other scanner where the first one misses. -/
def orElse (s : Scan α) (t : Unit → Scan α) : Scan α := fun c =>
  match s c with
  | .miss _ => t () c
  | r => r

instance : OrElse (Scan α) := ⟨orElse⟩

/-- A scanner that may not miss. -/
def cut (s : Scan α) : Scan α := fun c =>
  match s c with
  | .miss f => .stop f
  | r => r

/-- Changes the fault of a scanner. -/
def mapFault (g : Fault → Fault) (s : Scan α) : Scan α := fun c =>
  match s c with
  | .ok a c => .ok a c
  | .miss f => .miss (g f)
  | .stop f => .stop (g f)

/-- Says what is being read. -/
def label (what : String) (s : Scan α) : Scan α :=
  mapFault (fun f => { f with labels := f.labels ++ [what] }) s

/-- Says what is expected. -/
def expect (whats : List String) (s : Scan α) : Scan α :=
  mapFault (fun f => { f with expected := f.expected ++ whats }) s

/-! ### Reading -/

/-- The cursor. -/
def place : Scan Cursor := fun c => .ok c c

/-- The next character. -/
def next? : Scan (Option Char) := fun c => .ok c.rest.head? c

/-- The next character if it satisfies `p`. -/
def satisfy (p : Char → Bool) : Scan Char := fun c =>
  match c.rest with
  | x :: r => if p x then .ok x ⟨r, c.offset + x.utf8Size⟩ else fail c
  | [] => fail c

/-- A character. -/
def char (x : Char) : Scan Char := satisfy (· == x)

/-- The end of the text. -/
def eof : Scan Unit := fun c => if c.rest.isEmpty then .ok () c else fail c

/-- Some characters in a row, all or none. -/
def literal (s : List Char) : Scan Unit := fun c =>
  if s.isPrefixOf c.rest then
    .ok () ⟨c.rest.drop s.length, s.foldl (fun n x => n + x.utf8Size) c.offset⟩
  else fail c

/-- The characters up to the first that does not satisfy `p`. -/
def run (p : Char → Bool) : Scan (List Char) := fun c =>
  let (found, rest) := c.rest.span p
  .ok found ⟨rest, found.foldl (fun n x => n + x.utf8Size) c.offset⟩

/-- At least one character that satisfies `p`, and those after it. -/
def run1 (p : Char → Bool) : Scan (List Char) := do
  let x ← satisfy p
  return x :: (← run p)

/-- From `low` to `high` characters that satisfy `p`. -/
def runBetween (low high : Nat) (p : Char → Bool) : Scan (List Char) := fun c =>
  let found := (c.rest.take high).takeWhile p
  if found.length < low then fail c
  else .ok found ⟨c.rest.drop found.length, found.foldl (fun n x => n + x.utf8Size) c.offset⟩

/-- What a scanner finds, or nothing where it misses. -/
def opt (s : Scan α) : Scan (Option α) := fun c =>
  match s c with
  | .ok a c => .ok (some a) c
  | .miss _ => .ok none c
  | .stop f => .stop f

/-- What a scanner finds, without going on. -/
def ahead (s : Scan α) : Scan α := fun c =>
  match s c with
  | .ok a _ => .ok a c
  | r => r

/-- Repeats a scanner at most `fuel` times, until it misses. -/
def manyUpTo (s : Scan α) : (fuel : Nat) → Scan (List α)
  | 0, c => .ok [] c
  | fuel + 1, c =>
    match s c with
    | .ok a d =>
      match manyUpTo s fuel d with
      | .ok as d => .ok (a :: as) d
      | r => r
    | .miss _ => .ok [] c
    | .stop f => .stop f

/-- Repeats a scanner until it misses; each round takes at least one character. -/
def many (s : Scan α) : Scan (List α) := fun c => manyUpTo s (c.rest.length + 1) c

/-- Repeats a scanner until it misses, at least once. -/
def many1 (s : Scan α) : Scan (List α) := do
  let a ← s
  return a :: (← many s)

/-- Items with separators between them. A separator without an item after it is not taken. -/
def separated (item : Scan α) (separator : Scan β) : Scan (List α) := do
  let a ← item
  return a :: (← many (do let _ ← separator; item))

/-- What a scanner finds, with the cursor before it and the offset after it. -/
def located (s : Scan α) : Scan (α × Cursor × Nat) := do
  let start ← place
  let a ← s
  let stop ← place
  return (a, start, stop.offset)

/-- Goes on with what a check allows; what it refuses is a miss at the beginning. -/
def checked (s : Scan α) (check : α → Except String β) : Scan β := do
  let start ← place
  match check (← s) with
  | .ok b => return b
  | .error cause => refuse start cause

/-! ### Laws -/

/-- Nothing is tried after a stop. -/
theorem orElse_stop {s : Scan α} {c : Cursor} {f : Fault} (h : s c = .stop f)
    (t : Unit → Scan α) : orElse s t c = .stop f := by
  simp [orElse, h]

/-- A scanner that may not miss does not. -/
theorem cut_ne_miss (s : Scan α) (c : Cursor) (f : Fault) : cut s c ≠ .miss f := by
  unfold cut
  cases h : s c <;> simp

end Scan

end LuaSession.Toml
