import LuaSession.Pattern.Regex

/-!
# Programs of patterns

A regular expression written out as instructions, each with its successors. An expression is
compiled before the place to go on at, so an instruction's successors are known when it is written;
only loops are closed afterwards.
-/

namespace LuaSession.Pattern

open LuaSession.Unicode

/-- An instruction. Of the two successors of `fork` the first is preferred. -/
inductive Instr
  | take (table : Array (Nat × Nat)) (next : Nat)
  | fork (first second : Nat)
  | check (l : Look) (next : Nat)
  | accept
  deriving Inhabited

/-- Adds an instruction; gives its place. -/
def emit (code : Array Instr) (i : Instr) : Nat × Array Instr :=
  (code.size, code.push i)

/-- A fork that prefers going on when greedy. -/
def loopFork (greedy : Bool) (body out : Nat) : Instr :=
  if greedy then .fork body out else .fork out body

/-- `count` copies in a row, by the compiler `one` of a copy before a place. -/
def copies (one : Nat → Array Instr → Nat × Array Instr) :
    (count : Nat) → (next : Nat) → Array Instr → Nat × Array Instr
  | 0, next, code => (next, code)
  | count + 1, next, code =>
    let (start, code) := one next code
    copies one count start code

/-- `count` copies each of which may end the row, before the place `out`. -/
def optionalCopies (one : Nat → Array Instr → Nat × Array Instr) (greedy : Bool) (out : Nat) :
    (count : Nat) → (next : Nat) → Array Instr → Nat × Array Instr
  | 0, next, code => (next, code)
  | count + 1, next, code =>
    let (start, code) := one next code
    let (place, code) := emit code (loopFork greedy start out)
    optionalCopies one greedy out count place code

/-- One or more copies. -/
def plusLoop (one : Nat → Array Instr → Nat × Array Instr) (greedy : Bool) (next : Nat)
    (code : Array Instr) : Nat × Array Instr :=
  let (place, code) := emit code .accept
  let (start, code) := one place code
  (start, code.setIfInBounds place (loopFork greedy start next))

/-- Writes an expression before the place `next`; gives the place where it begins. -/
def Regex.compile : Regex → (next : Nat) → Array Instr → Nat × Array Instr
  | .empty, next, code => (next, code)
  | .chars rs, next, code => emit code (.take rs.toArray next)
  | .look l, next, code => emit code (.check l next)
  | .group r, next, code => r.compile next code
  | .both a b, next, code =>
    let (mid, code) := b.compile next code
    a.compile mid code
  | .either a b, next, code =>
    let (second, code) := b.compile next code
    let (first, code) := a.compile next code
    emit code (.fork first second)
  | .repeated least most greedy r, next, code =>
    match most with
    | some m =>
      let (place, code) := optionalCopies r.compile greedy next (m - least) next code
      copies r.compile least place code
    | none =>
      if least == 0 then
        if r.consumes then
          let (place, code) := emit code .accept
          let (start, code) := r.compile place code
          (place, code.setIfInBounds place (loopFork greedy start next))
        else
          let (start, code) := plusLoop r.compile greedy next code
          emit code (loopFork greedy start next)
      else
        let (start, code) := plusLoop r.compile greedy next code
        copies r.compile (least - 1) start code

/-- The instructions of an expression and where they begin. -/
structure Program where
  code : Array Instr
  start : Nat

/-- The program of an expression. -/
def Regex.program (r : Regex) : Program :=
  let (start, code) := r.compile 0 #[.accept]
  ⟨code, start⟩

end LuaSession.Pattern
