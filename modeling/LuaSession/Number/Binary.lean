/-!
# Binary floating point numbers

A double is not a number, an infinity, or a sign with a magnitude `mantissa · 2 ^ exponent`.
All exact work on doubles (shortest decimal form, fixed places, remainders) goes through this view.
-/

namespace LuaSession.Number

/-- A finite double without its sign: `mantissa * 2 ^ exponent`. `narrow` tells that the next
double below is only half as far away as the next above. -/
structure Magnitude where
  mantissa : Nat
  exponent : Int
  narrow : Bool
  deriving DecidableEq, Repr

/-- What the bits of a double say. -/
inductive Reading
  | nan
  | infinite (negative : Bool)
  | finite (negative : Bool) (magnitude : Magnitude)
  deriving DecidableEq, Repr

/-- The reading of 64 bits: sign, eleven bits of exponent, 52 bits of fraction. -/
def Reading.ofBits (bits : UInt64) : Reading :=
  let b := bits.toNat
  let negative := b / 0x8000000000000000 == 1
  let e : Nat := b / 0x10000000000000 % 0x800
  let f : Nat := b % 0x10000000000000
  if e == 2047 then
    if f == 0 then .infinite negative else .nan
  else if e == 0 then .finite negative ⟨f, -1074, false⟩
  else .finite negative ⟨0x10000000000000 + f, (e : Int) - 1075, f == 0 && 1 < e⟩

/-- The reading of a double. -/
def reading (x : Float) : Reading :=
  Reading.ofBits x.toBits

/-- Whether the double is neither an infinity nor not a number. -/
def isFinite (x : Float) : Bool :=
  match reading x with
  | .finite .. => true
  | _ => false

/-- The magnitude as a fraction with positive denominator. -/
def Magnitude.fraction (m : Magnitude) : Nat × Nat :=
  if 0 ≤ m.exponent then (m.mantissa * Nat.pow 2 m.exponent.toNat, 1)
  else (m.mantissa, Nat.pow 2 (-m.exponent).toNat)

/-- `num * 10 ^ e / den` as a fraction. -/
def scale10 (num den : Nat) (e : Int) : Nat × Nat :=
  if 0 ≤ e then (num * Nat.pow 10 e.toNat, den) else (num, den * Nat.pow 10 (-e).toNat)

/-- Whether `10 ^ e ≤ num / den`. -/
def reaches10 (num den : Nat) (e : Int) : Bool :=
  let (n, d) := scale10 num den (-e)
  d ≤ n

/-- The power of ten of the first digit of `num / den`, which is not zero: the greatest `e` with
`10 ^ e ≤ num / den`, from an estimate by binary lengths that is at most one too great. -/
def magnitude10 (num den : Nat) : Int :=
  let bits : Int := (Nat.log2 num : Int) - (Nat.log2 den : Int) + 1
  let guess : Int := bits * 30103 / 100000
  if reaches10 num den guess then
    if reaches10 num den (guess + 1) then guess + 1 else guess
  else if reaches10 num den (guess - 1) then guess - 1
  else guess - 2

/-- The quotient rounded to the nearest natural number, a half to the even neighbour. -/
def roundDiv (num den : Nat) : Nat :=
  let q := num / den
  let r := num % den
  if 2 * r < den then q
  else if den < 2 * r then q + 1
  else if q % 2 == 0 then q else q + 1

/-- The double nearest to an integer. -/
def floatOfInt (n : Int) : Float :=
  if n < 0 then -(Float.ofNat n.natAbs) else Float.ofNat n.natAbs

/-- The double nearest to `digits * 10 ^ e`; far out of range it is infinite or zero at once. -/
def floatOfDecimal (digits : Nat) (e : Int) : Float :=
  let top : Int := (Nat.log2 digits : Int) * 30103 / 100000 + e
  if digits == 0 || top < -400 then 0.0
  else if 400 < top then 1.0 / 0.0
  else if e < 0 then Float.ofScientific digits true (-e).toNat
  else Float.ofScientific digits false e.toNat

/-- The integer that a finite double equals, if it is one. -/
def exactInt? (x : Float) : Option Int :=
  match reading x with
  | .finite negative m =>
    let (n, d) := m.fraction
    if n % d == 0 then some (if negative then -((n / d : Nat) : Int) else ((n / d : Nat) : Int))
    else none
  | _ => none

/-- The integer part of a finite double, toward zero. -/
def truncate? (x : Float) : Option Int :=
  match reading x with
  | .finite negative m =>
    let (n, d) := m.fraction
    some (if negative then -((n / d : Nat) : Int) else ((n / d : Nat) : Int))
  | _ => none

/-- The remainder of the division of two doubles whose quotient is rounded toward zero; exact. -/
def remainder (x y : Float) : Float :=
  match reading x, reading y with
  | .finite negative a, .finite _ b =>
    if b.mantissa == 0 then 0.0 / 0.0
    else
      let low := min a.exponent b.exponent
      let n := a.mantissa * Nat.pow 2 (a.exponent - low).toNat
      let d := b.mantissa * Nat.pow 2 (b.exponent - low).toNat
      let r := Float.scaleB (Float.ofNat (n % d)) low
      if negative then -r else r
  | .finite .., .infinite _ => x
  | _, _ => 0.0 / 0.0

theorem roundDiv_exact (q : Nat) {den : Nat} (h : 0 < den) : roundDiv (q * den) den = q := by
  simp [roundDiv, Nat.mul_div_cancel _ h, h]

end LuaSession.Number
