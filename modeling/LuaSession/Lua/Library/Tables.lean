import LuaSession.Lua.Arguments

/-!
# The table library

Lists in tables. The functions read and write through metamethods where a table has some.
-/

namespace LuaSession.Lua

open LuaSession.Lua.Task

namespace TableFn

/-- The functions under the names that programs find. -/
def all : List (String × TableFn) :=
  [("concat", .concat), ("insert", .insert), ("move", .move), ("pack", .pack), ("remove", .remove),
   ("sort", .sort), ("unpack", .unpack)]

/-- The value of an integer key. -/
def at_ (t : Value) (i : Int) : Task Value := index none t (.ofInt i) none

/-- Sets the value of an integer key. -/
def put (t : Value) (i : Int) (v : Value) : Task Unit := setIndex none t (.ofInt i) v none

/-- The length of a value as an integer. -/
def lengthOf (c : Call) (t : Value) : Task Int := do
  match ← length none t none with
  | .int n => return n.toInt
  | v =>
    match Lua.exactInt? v with
    | some n => return n.toInt
    | none => c.fail "object length is not an integer"

/-- A table, or a value whose metatable has these metamethods. -/
def tableLike (c : Call) (n : Nat) (events : List String) : Task Value := do
  match c.arg n with
  | .table id => return .table id
  | v =>
    match ← read (·.metatable v) with
    | none => c.failType n "table"
    | some _ =>
      let found ← events.mapM fun e => read (·.metamethod v e)
      if found.any (·.isNil) then c.failType n "table" else return v

/-- The values of the keys from `i` on, `n` of them. -/
def values (t : Value) : (n : Nat) → (i : Int) → Task (List Value)
  | 0, _ => return []
  | n + 1, i => do
    let v ← at_ t i
    return v :: (← values t n (i + 1))

/-- The values of the keys from 1 on of a table without metamethods. -/
def rawValues (t : Table) (n : Nat) : List Value :=
  (List.range n).map fun i => t.getInt (Int64.ofNat (i + 1))

/-- Whether a value is a table without metatable. -/
def plain? (v : Value) : Task (Option Nat) :=
  match v with
  | .table id => read fun m => if (m.table id).metatable.isNone then some id else none
  | _ => pure none

/-- The values of the keys from 1 to `n`. -/
def items (v : Value) (n : Nat) : Task (List Value) := do
  match ← plain? v with
  | some id => read fun m => rawValues (m.table id) n
  | none => values v n 1

/-- Copies `n` values from keys `source` on of a table to keys `target` on of another, going up. -/
def copyUp (a b : Value) : (n : Nat) → (source target : Int) → Task Unit
  | 0, _, _ => pure ()
  | n + 1, i, j => do
    put b j (← at_ a i)
    copyUp a b n (i + 1) (j + 1)

/-- Copies like `copyUp`, the last value first. -/
def copyDown (a b : Value) : (n : Nat) → (source target : Int) → Task Unit
  | 0, _, _ => pure ()
  | n + 1, i, j => do
    put b (j + n) (← at_ a (i + n))
    copyDown a b n i j

/-! ### Sorting -/

/-- Swaps two places. -/
def swap (a : Array Value) (i j : Nat) : Array Value :=
  let x := a.getD i .nil
  let y := a.getD j .nil
  (a.setIfInBounds i y).setIfInBounds j x

/-- The first place from `i` on whose value is not below the pivot. -/
def climb (c : Call) (lt : Value → Value → Task Bool) (a : Array Value) (pivot : Value)
    (up : Nat) : (fuel : Nat) → (i : Nat) → Task Nat
  | 0, i => pure i
  | fuel + 1, i => do
    if ← lt (a.getD i .nil) pivot then
      if i + 1 == up then c.fail "invalid order function for sorting"
      climb c lt a pivot up fuel (i + 1)
    else return i

/-- The first place from `j` down whose value the pivot is not below. -/
def descend (c : Call) (lt : Value → Value → Task Bool) (a : Array Value) (pivot : Value)
    (i : Nat) : (fuel : Nat) → (j : Nat) → Task Nat
  | 0, j => pure j
  | fuel + 1, j => do
    if ← lt pivot (a.getD j .nil) then
      if j < i then c.fail "invalid order function for sorting"
      descend c lt a pivot i fuel (j - 1)
    else return j

/-- Puts the values below the pivot, which is at `up - 1`, before the others; gives the place of the
pivot. -/
def partition (c : Call) (lt : Value → Value → Task Bool) (pivot : Value) (up : Nat) :
    (fuel : Nat) → (a : Array Value) → (i j : Nat) → Task (Nat × Array Value)
  | 0, a, i, _ => pure (i, a)
  | fuel + 1, a, i, j => do
    let i ← climb c lt a pivot up (a.size + 1) (i + 1)
    let j ← descend c lt a pivot i (a.size + 1) (j - 1)
    if j < i then return (i, swap a (up - 1) i)
    else partition c lt pivot up fuel (swap a i j) i j

/-- Puts the value at `p` between those at `lo` and `up`, which are in order. -/
def settle (lt : Value → Value → Task Bool) (a : Array Value) (lo p up : Nat) :
    Task (Array Value) := do
  if ← lt (a.getD p .nil) (a.getD lo .nil) then return swap a p lo
  if ← lt (a.getD up .nil) (a.getD p .nil) then return swap a p up
  return a

/-- Sorts the places from `lo` to `up`. -/
def sortPart (c : Call) (lt : Value → Value → Task Bool) :
    (fuel : Nat) → (a : Array Value) → (lo up : Nat) → Task (Array Value)
  | 0, a, _, _ => pure a
  | fuel + 1, a, lo, up => do
    if up ≤ lo then return a
    let a := if ← lt (a.getD up .nil) (a.getD lo .nil) then swap a lo up else a
    if up - lo == 1 then return a
    let p := (lo + up) / 2
    let a ← settle lt a lo p up
    if up - lo == 2 then return a
    let pivot := a.getD p .nil
    let (p, a) ← partition c lt pivot up (a.size + 1) (swap a p (up - 1)) lo (up - 1)
    if p - lo < up - p then
      let a ← sortPart c lt fuel a lo (p - 1)
      sortPart c lt fuel a (p + 1) up
    else
      let a ← sortPart c lt fuel a (p + 1) up
      sortPart c lt fuel a lo (p - 1)

/-- Puts values into a table from key `i` on. -/
def putAll (t : Value) : List Value → (i : Int) → Task Unit
  | [], _ => pure ()
  | v :: vs, i => do
    put t i v
    putAll t vs (i + 1)

/-- How many values a function may give back. -/
def resultLimit : Int := 999900

/-- Runs a function. -/
def run (f : TableFn) (c : Call) : Task (List Value) := do
  match f with
  | .concat =>
    let t ← tableLike c 1 ["__index", "__len"]
    let n ← lengthOf c t
    let sep ← c.stringOr 2 ByteArray.empty
    let first ← c.intOr 3 1
    let last ← c.intOr 4 n
    let vs ← if first == 1 then items t last.toNat else values t (last - first + 1).toNat first
    let parts ← vs.zipIdx.mapM fun (v, i) => do
      match toBytes? v with
      | some s => return s
      | none =>
        let at_ := String.ofList (Number.intChars (first + i))
        c.fail s!"invalid value (at index {at_}) in table for 'concat'"
    match parts with
    | [] => return [.str ByteArray.empty]
    | p :: ps => return [.str (ps.foldl (fun acc q => acc ++ sep ++ q) p)]
  | .insert =>
    let t ← tableLike c 1 ["__index", "__newindex", "__len"]
    let e := (← lengthOf c t) + 1
    match c.args.length with
    | 2 => put t e (c.arg 2)
    | 3 =>
      let pos ← c.int 2
      if pos < 1 || e < pos then c.failArg 2 (bytes "position out of bounds")
      copyDown t t (e - pos).toNat pos (pos + 1)
      put t pos (c.arg 3)
    | _ => c.fail "wrong number of arguments to 'insert'"
    return []
  | .move =>
    let a ← tableLike c 1 ["__index"]
    let f ← c.int 2
    let e ← c.int 3
    let t ← c.int 4
    let b ← if c.lacks 5 then tableLike c 1 ["__newindex"] else tableLike c 5 ["__newindex"]
    if f ≤ e then
      if !(0 < f || e < 0x8000000000000000 - 1 + f) then c.failArg 3 (bytes "too many elements to move")
      let n := e - f + 1
      if 0x8000000000000000 - 1 - n + 1 < t then c.failArg 4 (bytes "destination wrap around")
      if e < t || t ≤ f || (!c.lacks 5 && !rawEq a b) then copyUp a b n.toNat f t
      else copyDown a b n.toNat f t
    return [b]
  | .pack =>
    let t := (Table.ofList c.args).setText "n" (.ofNat c.args.length)
    return [← newTable t]
  | .remove =>
    let t ← tableLike c 1 ["__index", "__newindex", "__len"]
    let n ← lengthOf c t
    let pos ← c.intOr 2 n
    if c.args.length != 1 && pos != n then
      if pos < 1 || n + 1 < pos then c.failArg 2 (bytes "position out of bounds")
    let v ← at_ t pos
    if pos < n then copyUp t t (n - pos).toNat (pos + 1) pos
    put t (max pos n) .nil
    return [v]
  | .sort =>
    let t ← tableLike c 1 ["__index", "__newindex", "__len"]
    let n ← lengthOf c t
    if 1 < n then
      if 0x80000000 - 1 ≤ n then c.failArg 1 (bytes "array too big")
      unless c.lacks 2 do
        let _ ← c.function 2
      let lt (x y : Value) : Task Bool :=
        if c.lacks 2 then below none x y
        else do return (← callOne (c.arg 2) [x, y] c.inner).truthy
      let vs ← items t n.toNat
      let sorted ← sortPart c lt (n.toNat + 1) vs.toArray 0 (n.toNat - 1)
      match ← plain? t with
      | some id => update fun m => m.modifyTable id fun t =>
          (sorted.toList.zipIdx.foldl (fun t (v, i) => t.set (.ofNat (i + 1)) v) t)
      | none => putAll t sorted.toList 1
    return []
  | .unpack =>
    let t := c.arg 1
    let first ← c.intOr 2 1
    let last ← if c.lacks 3 then lengthOf c t else c.int 3
    if last < first then return []
    if resultLimit ≤ last - first + 1 then c.fail "too many results to unpack"
    if first == 1 then items t last.toNat else values t (last - first + 1).toNat first

end TableFn

end LuaSession.Lua
