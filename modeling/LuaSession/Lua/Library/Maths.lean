import LuaSession.Lua.Arguments
import LuaSession.Lua.Random

/-!
# The mathematical library
-/

namespace LuaSession.Lua

open LuaSession.Lua.Task

namespace MathFn

/-- The functions under the names that programs find. -/
def all : List (String × MathFn) :=
  [("abs", .abs), ("acos", .acos), ("asin", .asin), ("atan", .atan), ("ceil", .ceil), ("cos", .cos),
   ("deg", .deg), ("exp", .exp), ("floor", .floor), ("fmod", .fmod), ("log", .log), ("max", .max),
   ("min", .min), ("modf", .modf), ("rad", .rad), ("random", .random), ("randomseed", .randomseed),
   ("sin", .sin), ("sqrt", .sqrt), ("tan", .tan), ("tointeger", .tointeger), ("type", .type),
   ("ult", .ult), ("cosh", .cosh), ("sinh", .sinh), ("tanh", .tanh), ("pow", .pow),
   ("frexp", .frexp), ("ldexp", .ldexp), ("log10", .log10)]

/-- The ratio of a circle's circumference to its diameter. -/
def pi : Float := 3.141592653589793

/-- The constants under the names that programs find. -/
def constants : List (String × Value) :=
  [("pi", .float pi), ("huge", .float (1.0 / 0.0)), ("maxinteger", .int Int64.maxValue),
   ("mininteger", .int Int64.minValue)]

/-- A whole double as an integer if it fits. -/
def whole (x : Float) : Value :=
  match int64OfFloat? x with
  | some n => .int n
  | none => .float x

/-- The first of several numbers that no other comes before. -/
def extreme (c : Call) (better : Value → Value → Bool) : (n : Nat) → (best : Value) → (i : Nat) →
    Task Value
  | 0, best, _ => pure best
  | n + 1, best, i => do
    let v ← c.number i
    extreme c better n (if better v best then v else best) (i + 1)

/-- A double as a fraction from one half up to below one and a power of two. -/
def split (x : Float) : Float × Int :=
  match Number.reading x with
  | .finite _ m =>
    if m.mantissa == 0 then (x, 0)
    else
      let e : Int := m.exponent + (Nat.log2 m.mantissa : Nat) + 1
      (Float.scaleB x (-e), e)
  | _ => (x, 0)

/-- Runs a function. -/
def run (f : MathFn) (c : Call) : Task (List Value) := do
  let real (g : Float → Float) : Task (List Value) := do
    return [.float (g (← c.float 1))]
  match f with
  | .abs =>
    match ← c.number 1 with
    | .int n => return [.int (if n < 0 then -n else n)]
    | v => return [.float ((toFloat? v).getD 0.0).abs]
  | .ceil =>
    match ← c.number 1 with
    | .int n => return [.int n]
    | v => return [whole ((toFloat? v).getD 0.0).ceil]
  | .floor =>
    match ← c.number 1 with
    | .int n => return [.int n]
    | v => return [whole ((toFloat? v).getD 0.0).floor]
  | .acos => real Float.acos
  | .asin => real Float.asin
  | .atan =>
    let y ← c.float 1
    let x ← if c.lacks 2 then pure 1.0 else c.float 2
    return [.float (Float.atan2 y x)]
  | .cos => real Float.cos
  | .sin => real Float.sin
  | .tan => real Float.tan
  | .cosh => real Float.cosh
  | .sinh => real Float.sinh
  | .tanh => real Float.tanh
  | .exp => real Float.exp
  | .sqrt => real Float.sqrt
  | .log10 => real Float.log10
  | .deg => real fun x => x * (180.0 / pi)
  | .rad => real fun x => x * (pi / 180.0)
  | .pow => do
    let x ← c.float 1
    let y ← c.float 2
    return [.float (Float.pow x y)]
  | .frexp =>
    let (x, e) := split (← c.float 1)
    return [.float x, .ofInt e]
  | .ldexp =>
    let x ← c.float 1
    let e ← c.int 2
    return [.float (Float.scaleB x e)]
  | .log =>
    let x ← c.float 1
    if c.lacks 2 then return [.float x.log]
    let b ← c.float 2
    if b == 2.0 then return [.float x.log2]
    else if b == 10.0 then return [.float x.log10]
    else return [.float (x.log / b.log)]
  | .fmod =>
    match ← c.number 1, ← c.number 2 with
    | .int a, .int b =>
      if b == 0 then c.failArg 2 (bytes "zero")
      else if b == -1 then return [.int 0]
      else return [.int (a % b)]
    | a, b => return [.float (Number.remainder ((toFloat? a).getD 0.0) ((toFloat? b).getD 0.0))]
  | .modf =>
    match c.arg 1 with
    | .int n => return [.int n, .float 0.0]
    | _ =>
      let x ← c.float 1
      let n := if x < 0.0 then x.ceil else x.floor
      return [.float n, .float (if n == x then 0.0 else x - n)]
  | .max =>
    let v ← c.number 1
    return [← extreme c (fun a b => (below? b a).getD false) (c.args.length - 1) v 2]
  | .min =>
    let v ← c.number 1
    return [← extreme c (fun a b => (below? a b).getD false) (c.args.length - 1) v 2]
  | .random =>
    let x ← change fun m =>
      let (x, s) := Random.next m.random
      (x, { m with random := s })
    let between (low up : Int) : Task (List Value) := do
      if up < low then c.failArg 2 (bytes "interval is empty")
      let limit := (Int64.ofInt up).toUInt64 - (Int64.ofInt low).toUInt64
      let y ← change fun m =>
        let (y, s) := Random.project limit 10000 x m.random
        (y, { m with random := s })
      return [.int (Int64.ofUInt64 (y + (Int64.ofInt low).toUInt64))]
    match c.args.length with
    | 0 => return [.float (Random.toFloat x)]
    | 1 =>
      let up ← c.int 1
      if up == 0 then return [.int (Int64.ofUInt64 x)] else between 1 up
    | 2 =>
      let low ← c.int 1
      between low (← c.int 2)
    | _ => c.fail "wrong number of arguments"
  | .randomseed =>
    if c.args.isEmpty then
      let t ← ask .now
      update fun m => { m with random := Random.seed (Int64.ofInt t).toUInt64 0 }
      return []
    let a ← match c.arg 1 with
      | .float x =>
        match int64OfFloat? x with
        | some n => pure n
        | none => pure (Int64.ofUInt64 x.toBits)
      | _ => do pure (Int64.ofInt (← c.int 1))
    let b ← c.intOr 2 0
    update fun m => { m with random := Random.seed a.toUInt64 (Int64.ofInt b).toUInt64 }
    return [.int a, .ofInt b]
  | .tointeger =>
    match toInt? (c.arg 1) with
    | some n => return [.int n]
    | none =>
      let _ ← c.any 1
      return [.nil]
  | .type =>
    match ← c.any 1 with
    | .int _ => return [.text "integer"]
    | .float _ => return [.text "float"]
    | _ => return [.nil]
  | .ult =>
    let a ← c.int 1
    let b ← c.int 2
    return [.bool ((Int64.ofInt a).toUInt64 < (Int64.ofInt b).toUInt64)]

end MathFn

end LuaSession.Lua
