import LuaSession.Number.Binary
import LuaSession.Number.Digits

/-!
# Decimal forms of doubles

A decimal form is a row of digits, the first not zero, and the power of ten of the first digit.
`shortest` finds the fewest digits that read back to the same double, and of these the nearest;
`rounded` gives a number of significant digits and `fixed` a number of places, both rounded from
the exact value with a half going to the even neighbour.
-/

namespace LuaSession.Number

/-- The digits of a positive number and the power of ten of the first of them. -/
structure Decimal where
  digits : List Nat
  exponent : Int
  deriving DecidableEq, Repr

/-- The value rounded to `count` significant digits. -/
def rounded (num den : Nat) (count : Nat) : Decimal :=
  let e := magnitude10 num den
  let (n, d) := scale10 num den ((count : Int) - 1 - e)
  let r := roundDiv n d
  if r == Nat.pow 10 count then ⟨1 :: List.replicate (count - 1) 0, e + 1⟩
  else ⟨toDigits r, e⟩

/-- The bounds of the reals that round to the magnitude, with its value, all as numerators over
one denominator, and whether the bounds themselves round to it. -/
structure Interval where
  low : Nat
  value : Nat
  high : Nat
  den : Nat
  closed : Bool

/-- The reals nearer to the magnitude than to any other. -/
def Magnitude.interval (m : Magnitude) : Interval :=
  let unit : Nat × Nat :=
    if 2 ≤ m.exponent then (Nat.pow 2 (m.exponent - 2).toNat, 1)
    else (1, Nat.pow 2 (2 - m.exponent).toNat)
  let v := 4 * m.mantissa
  ⟨(v - if m.narrow then 1 else 2) * unit.1, v * unit.1, (v + 2) * unit.1, unit.2,
    m.mantissa % 2 == 0⟩

/-- Whether `num / den` lies in the interval. -/
def Interval.contains (i : Interval) (num den : Nat) : Bool :=
  let x := num * i.den
  if i.closed then i.low * den ≤ x && x ≤ i.high * den
  else i.low * den < x && x < i.high * den

/-- The multiple of `10 ^ e` nearest to the value among its two neighbours that lie in the
interval, as a number of steps. -/
def Interval.nearest? (i : Interval) (e : Int) : Option Nat :=
  let (n, d) := scale10 i.value i.den (-e)
  let below := n / d
  let holds (k : Nat) : Bool :=
    let (kn, kd) := scale10 k 1 e
    i.contains kn kd
  match holds below, holds (below + 1) with
  | true, true =>
    let r := n % d
    if 2 * r < d then some below
    else if d < 2 * r then some (below + 1)
    else some (if below % 2 == 0 then below else below + 1)
  | true, false => some below
  | false, true => some (below + 1)
  | false, false => none

/-- The digits without the zeros at their end. -/
def stripZeros (ds : List Nat) : List Nat :=
  (ds.reverse.dropWhile (· == 0)).reverse

/-- The first number of digits, from `count` on, for which a decimal lies in the interval; `top` is
the power of ten of the first digit and `left` bounds the search. -/
def Interval.shortestFrom (i : Interval) (top : Int) : (count left : Nat) → Decimal
  | count, 0 => rounded i.value i.den count
  | count, left + 1 =>
    match i.nearest? (top - (count : Int) + 1) with
    | some k =>
      let ds := toDigits k
      if k == 0 then i.shortestFrom top (count + 1) left
      else ⟨stripZeros ds, top + ((ds.length : Int) - (count : Int))⟩
    | none => i.shortestFrom top (count + 1) left

/-- The fewest digits that read back to the magnitude, which is not zero. -/
def Magnitude.shortest (m : Magnitude) : Decimal :=
  let i := m.interval
  i.shortestFrom (magnitude10 i.value i.den) 1 17

/-- The text of digits. -/
def digitText (ds : List Nat) : List Char :=
  ds.map digitChar

/-- The decimal written without an exponent; `point` asks for `.0` after a whole number. -/
def Decimal.positional (d : Decimal) (point : Bool) : List Char :=
  let n := d.digits.length
  if d.exponent < 0 then
    '0' :: '.' :: (List.replicate (-d.exponent - 1).toNat '0' ++ digitText d.digits)
  else
    let whole := d.exponent.toNat + 1
    if n ≤ whole then
      digitText d.digits ++ List.replicate (whole - n) '0' ++ (if point then ['.', '0'] else [])
    else digitText (d.digits.take whole) ++ '.' :: digitText (d.digits.drop whole)

/-- The first digit, a point, and the others. -/
def Decimal.pointed (d : Decimal) : List Char :=
  match d.digits with
  | [] => ['0']
  | [x] => [digitChar x]
  | x :: r => digitChar x :: '.' :: digitText r

/-- The magnitude with `places` digits after the point; `point` keeps the point without places. -/
def Magnitude.fixed (m : Magnitude) (places : Nat) (point : Bool) : List Char :=
  let (n, d) := m.fraction
  let r := roundDiv (n * Nat.pow 10 places) d
  let ds := toDigits r
  let ds := List.replicate (places + 1 - ds.length) 0 ++ ds
  let whole := ds.length - places
  digitText (ds.take whole) ++
    (if places == 0 then (if point then ['.'] else []) else '.' :: digitText (ds.drop whole))

/-- An exponent with its sign and at least two digits. -/
def exponentChars (mark : Char) (e : Int) : List Char :=
  let ds := natChars e.natAbs
  mark :: (if e < 0 then '-' else '+') :: (if ds.length < 2 then '0' :: ds else ds)

/-- The magnitude as one digit, `places` digits after the point and an exponent. -/
def Magnitude.scientific (m : Magnitude) (places : Nat) (point : Bool) : List Char :=
  if m.mantissa == 0 then
    '0' :: ((if places == 0 then (if point then ['.'] else [])
      else '.' :: List.replicate places '0') ++ exponentChars 'e' 0)
  else
    let (n, d) := m.fraction
    let r := rounded n d (places + 1)
    let body := if places == 0 && point then r.pointed ++ ['.'] else r.pointed
    body ++ exponentChars 'e' r.exponent

/-- The magnitude with `count` significant digits, positional from the power -4 up to below
`count` and with an exponent otherwise; zeros at the end are kept only when `keep` asks. -/
def Magnitude.general (m : Magnitude) (count : Nat) (keep : Bool) : List Char :=
  let count := if count == 0 then 1 else count
  if m.mantissa == 0 then
    if keep then '0' :: '.' :: List.replicate (count - 1) '0' else ['0']
  else
    let (n, d) := m.fraction
    let r := rounded n d count
    let r' : Decimal := if keep then r else ⟨stripZeros r.digits, r.exponent⟩
    if -4 ≤ r.exponent && r.exponent < count then
      let body := r'.positional false
      if keep && r.exponent + 1 == (count : Int) then body ++ ['.'] else body
    else r'.pointed ++ exponentChars 'e' r.exponent

/-- The hexadecimal form of a magnitude: one digit, a point, the digits of the fraction and a
power of two. Without `places` exactly the digits needed are written. -/
def Magnitude.hexadecimal (m : Magnitude) (places : Option Nat) (point : Bool) : List Char :=
  if m.mantissa == 0 then
    let zeros := List.replicate (places.getD 0) '0'
    ['0', 'x', '0'] ++ (if zeros.isEmpty && !point then [] else '.' :: zeros) ++ ['p', '+', '0']
  else
    let normal := decide (0x10000000000000 ≤ m.mantissa)
    let lead := if normal then 1 else 0
    let frac := m.mantissa % 0x10000000000000
    let e : Int := if normal then m.exponent + 52 else -1022
    let (lead, ds) :=
      match places with
      | none =>
        let ds := (hexChars 13 frac)
        (lead, (ds.reverse.dropWhile (· == '0')).reverse)
      | some p =>
        if 13 ≤ p then (lead, hexChars 13 frac ++ List.replicate (p - 13) '0')
        else
          let r := roundDiv (lead * 0x10000000000000 + frac) (Nat.pow 16 (13 - p))
          (r / Nat.pow 16 p, if p == 0 then [] else hexChars p (r % Nat.pow 16 p))
    ['0', 'x'] ++ natChars lead ++ (if ds.isEmpty && !point then [] else '.' :: ds) ++
      'p' :: (if e < 0 then '-' else '+') :: natChars e.natAbs

end LuaSession.Number
