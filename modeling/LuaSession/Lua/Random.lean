/-!
# Random numbers

A generator with a state of four words of 64 bits: each step mixes them by shifts, exclusive ors and
a multiplication.
-/

namespace LuaSession.Lua.Random

/-- The state of the generator. -/
abbrev State := UInt64 × UInt64 × UInt64 × UInt64

/-- The bits of a word moved around to the left. -/
def rotate (x n : UInt64) : UInt64 := (x <<< n) ||| (x >>> (64 - n))

/-- The next word and the state after it. -/
def next (s : State) : UInt64 × State :=
  let (s0, s1, s2, s3) := s
  let result := rotate (s1 * 5) 7 * 9
  let t := s1 <<< 17
  let s2 := s2 ^^^ s0
  let s3 := s3 ^^^ s1
  let s1 := s1 ^^^ s2
  let s0 := s0 ^^^ s3
  let s2 := s2 ^^^ t
  let s3 := rotate s3 45
  (result, s0, s1, s2, s3)

/-- The state after some steps. -/
def skip : Nat → State → State
  | 0, s => s
  | n + 1, s => skip n (next s).2

/-- The state of a seed of two numbers. -/
def seed (a b : UInt64) : State := skip 16 (a, 0xFF, b, 0)

/-- A word as a double from 0 up to below 1. -/
def toFloat (x : UInt64) : Float := (x >>> 11).toFloat * 1.1102230246251565e-16

/-- The least number of the form `2 ^ b - 1` that is not below a word. -/
def mask (n : UInt64) : UInt64 :=
  let n := n ||| (n >>> 1)
  let n := n ||| (n >>> 2)
  let n := n ||| (n >>> 4)
  let n := n ||| (n >>> 8)
  let n := n ||| (n >>> 16)
  n ||| (n >>> 32)

/-- A word up to `limit`, from a first word and, as long as its low bits are above the limit, from
the words after it; `fuel` bounds the trials. -/
def project (limit : UInt64) : (fuel : Nat) → (x : UInt64) → State → UInt64 × State
  | 0, _, s => (0, s)
  | fuel + 1, x, s =>
    let x := x &&& mask limit
    if x ≤ limit then (x, s)
    else
      let (y, s) := next s
      project limit fuel y s

end LuaSession.Lua.Random
