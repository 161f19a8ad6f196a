import LuaSession.Lua.Library.Format
import LuaSession.Lua.Library.Pack

/-!
# The string library

Places in strings are counted from 1, or from the end if they are negative.
-/

namespace LuaSession.Lua

open LuaSession.Lua.Task

namespace StringFn

/-- The functions under the names that programs find. -/
def all : List (String × StringFn) :=
  [("byte", .byte), ("char", .char), ("dump", .dump), ("find", .find), ("format", .format),
   ("gmatch", .gmatch), ("gsub", .gsub), ("len", .len), ("lower", .lower), ("match", .match_),
   ("rep", .rep), ("reverse", .reverse), ("sub", .sub), ("upper", .upper), ("pack", .pack),
   ("packsize", .packsize), ("unpack", .unpack)]

/-- The operators that strings take part in, under the names of their metamethods. -/
def operators : List (String × StringOp) :=
  [("add", .add), ("sub", .sub), ("mul", .mul), ("mod", .mod), ("pow", .pow), ("div", .div),
   ("idiv", .idiv), ("unm", .unm)]

/-- A first place as a place from 1 on. -/
def firstPlace (n : Int) (size : Nat) : Nat :=
  if 0 < n then n.toNat
  else if n == 0 then 1
  else if n < -(size : Int) then 1
  else (size + n + 1).toNat

/-- A last place as a place up to the size. -/
def lastPlace (n : Int) (size : Nat) : Nat :=
  if (size : Int) < n then size
  else if 0 ≤ n then n.toNat
  else if n < -(size : Int) then 0
  else (size + n + 1).toNat

/-- A part of a string by its first and last place. -/
def part (s : ByteArray) (first last : Nat) : ByteArray :=
  if last < first then ByteArray.empty else sliceBytes s (first - 1) last

/-- The result of matching, or the error that the pattern has. -/
def sound {α : Type} (c : Call) : Except String α → Task α
  | .ok a => pure a
  | .error e => c.fail e

/-- The common part of `find` and `match`. -/
def findAux (c : Call) (isFind : Bool) : Task (List Value) := do
  let s ← c.string 1
  let p ← c.string 2
  let start := firstPlace (← c.intOr 3 1) s.size - 1
  if s.size < start then return [.nil]
  if isFind && ((c.arg 4).truthy || !Match.hasSpecials p) then
    match Match.findFrom s p (s.size + 2) start with
    | some i => return [.ofNat (i + 1), .ofNat (i + p.size)]
    | none => return [.nil]
  else
    let x : Match.Subject := ⟨s, p⟩
    match ← sound c (Match.search x start) with
    | none => return [.nil]
    | some (first, stop, captures) =>
      if isFind then
        let vs ← sound c (captures.toList.mapM (Match.captureValue x))
        return .ofNat (first + 1) :: .ofNat stop :: vs
      else sound c (Match.captureValues x first stop captures)

/-! ### Substitution -/

/-- The text that a replacement string means for a match. -/
def expand (x : Match.Subject) (first stop : Nat) (captures : Array Match.Capture) :
    (s : List UInt8) → (acc : ByteArray) → Except String ByteArray
  | [], acc => .ok acc
  | 0x25 :: b :: r, acc =>
    if b == 0x25 then expand x first stop captures r (acc.push 0x25)
    else if b == 0x30 then
      expand x first stop captures r (acc ++ sliceBytes x.text first stop)
    else if Token.isDigitByte b then
      let i := b.toNat - 0x31
      match captures[i]? with
      | some cap =>
        match Match.captureValue x cap with
        | .ok v => expand x first stop captures r (acc ++ (toBytes? v).getD ByteArray.empty)
        | .error e => .error e
      | none =>
        if i == 0 then expand x first stop captures r (acc ++ sliceBytes x.text first stop)
        else
          let shown := String.ofList (Number.natChars (i + 1))
          .error s!"invalid capture index %{shown} in replacement string"
    else .error "invalid use of '%' in replacement string"
  | [0x25], _ => .error "invalid use of '%' in replacement string"
  | b :: r, acc => expand x first stop captures r (acc.push b)

/-- Where a substitution is: the place in the text, the end of the last match, the number of matches
and the text made so far. -/
structure Progress where
  place : Nat
  last : Option Nat
  count : Nat
  made : ByteArray

/-- The next match of a substitution, after the bytes that do not belong to one are copied. -/
def advance (x : Match.Subject) (p : Nat) (anchored : Bool) :
    (fuel : Nat) → Progress → Except String (Progress × Option (Nat × Nat × Array Match.Capture))
  | 0, g => .ok (g, none)
  | fuel + 1, g =>
    let skip : Except String (Progress × Option (Nat × Nat × Array Match.Capture)) :=
      if g.place < x.text.size then
        let g := { g with place := g.place + 1, made := g.made.push (Match.at_ x.text g.place) }
        if anchored then .ok (g, none) else advance x p anchored fuel g
      else .ok (g, none)
    match Match.match_ x g.place p with
    | .error e => .error e
    | .ok (some (stop, captures)) =>
      if g.last == some stop then skip
      else
        .ok ({ g with place := stop, last := some stop, count := g.count + 1 },
          some (g.place, stop, captures))
    | .ok none => skip

/-- Substitutes with a replacement string. -/
def substitute (x : Match.Subject) (p : Nat) (anchored : Bool) (replacement : List UInt8)
    (limit : Int) : (fuel : Nat) → Progress → Except String Progress
  | 0, g => .ok g
  | fuel + 1, g =>
    if limit ≤ g.count then .ok g
    else
      match advance x p anchored (x.text.size + 2) g with
      | .error e => .error e
      | .ok (g, none) => .ok g
      | .ok (g, some (first, stop, captures)) =>
        match expand x first stop captures replacement g.made with
        | .error e => .error e
        | .ok made =>
          let g := { g with made := made }
          if anchored then .ok g else substitute x p anchored replacement limit fuel g

/-- The value that stands for a match: a function or a table gives it. -/
def replacementFor (c : Call) (x : Match.Subject) (first stop : Nat)
    (captures : Array Match.Capture) : Task ByteArray := do
  let whole := sliceBytes x.text first stop
  let vs ← sound c (Match.captureValues x first stop captures)
  let v ← match c.arg 3 with
    | .func id => callOne (.func id) vs c.inner
    | t => index none t (firstOf vs) none
  match v with
  | .nil | .bool false => return whole
  | v =>
    match toBytes? v with
    | some s => return s
    | none =>
      let kind := v.typeName
      c.fail s!"invalid replacement value (a {kind})"

/-- Replaces the matches of a pattern. -/
def replaceAll (c : Call) : Task (List Value) := do
  let s ← c.string 1
  let p ← c.string 2
  match c.arg 3 with
  | .table _ | .func _ | .str _ | .int _ | .float _ => pure ()
  | _ => c.failType 3 "string/function/table"
  let limit ← c.intOr 4 (s.size + 1)
  let anchored := Match.isAnchored p
  let first := if anchored then 1 else 0
  let x : Match.Subject := ⟨s, p⟩
  let start : Progress := ⟨0, none, 0, ByteArray.empty⟩
  let finish (g : Progress) : List Value :=
    [.str (g.made ++ sliceBytes s g.place s.size), .ofNat g.count]
  match toBytes? (c.arg 3) with
  | some r => return finish (← sound c (substitute x first anchored r.data.toList limit (s.size + 2) start))
  | none =>
    let encode (g : Progress) : List Value :=
      [.ofNat g.place, (g.last.map Value.ofNat).getD .nil, .ofNat g.count, .str g.made]
    let flow ← loop (encode start) fun state =>
      match state with
      | [.int place, last, .int count, .str made] => do
        let last := match last with
          | .int n => some n.toInt.toNat
          | _ => none
        let g : Progress := ⟨place.toInt.toNat, last, count.toInt.toNat, made⟩
        if limit ≤ g.count then return .inr (.give (finish g))
        match ← sound c (advance x first anchored (s.size + 2) g) with
        | (g, none) => return .inr (.give (finish g))
        | (g, some (i, stop, captures)) =>
          let t ← replacementFor c x i stop captures
          let g := { g with made := g.made ++ t }
          if anchored then return .inr (.give (finish g)) else return .inl (encode g)
      | _ => return .inr .normal
    match flow with
    | .give vs => return vs
    | _ => return []

/-- Goes on with the matches of a pattern; the cells hold the place in the text and the end of the
last match. -/
def nextMatch (c : Call) (x : Match.Subject) (cell : Nat) : Task (List Value) := do
  let place ← read fun m => match m.cells.getD cell .nil with
    | .int n => n.toInt.toNat
    | _ => 0
  let last ← read fun m => match m.cells.getD (cell + 1) .nil with
    | .int n => some n.toInt.toNat
    | _ => none
  match ← sound c (search x last (x.text.size + 2) place) with
  | none =>
    update fun m => { m with cells := m.cells.setIfInBounds cell (.ofNat (x.text.size + 1)) }
    return [.nil]
  | some (first, stop, captures) =>
    update fun m => { m with
      cells := (m.cells.setIfInBounds cell (.ofNat stop)).setIfInBounds (cell + 1) (.ofNat stop) }
    sound c (Match.captureValues x first stop captures)
where
  /-- The next match that does not end where the last one did. -/
  search (x : Match.Subject) (last : Option Nat) :
      (fuel : Nat) → (s : Nat) → Except String (Option (Nat × Nat × Array Match.Capture))
    | 0, _ => .ok none
    | fuel + 1, s =>
      if x.text.size < s then .ok none
      else
        match Match.match_ x s 0 with
        | .error e => .error e
        | .ok (some (stop, cs)) =>
          if last == some stop then search x last fuel (s + 1) else .ok (some (s, stop, cs))
        | .ok none => search x last fuel (s + 1)

/-! ### Operators -/

/-- The operator of numbers. -/
def binaryOf : StringOp → Binary
  | .add => .add
  | .sub | .unm => .sub
  | .mul => .mul
  | .mod => .mod
  | .pow => .pow
  | .div => .div
  | .idiv => .idiv

/-- An operator on strings that are numerals. Otherwise the second operand may have a metamethod. -/
def calculate (c : Call) (op : StringOp) : Task (List Value) := do
  let a := c.arg 1
  let b := c.arg 2
  match toNumber? a, toNumber? b with
  | some x, some y =>
    match op with
    | .unm => return [← unary none .negate x none]
    | _ =>
      match computeNumbers (binaryOf op) x y with
      | some (.ok v) => return [v]
      | some (.error e) => c.fail e.message
      | none => return [.nil]
  | _, _ =>
    let name := ((operators.find? fun o => o.2 == op).map (·.1)).getD ""
    let tm ← match b with
      | .str _ => pure .nil
      | _ => read (·.metamethod b ("__" ++ name))
    if tm.isNil then
      let kind := (if c.has 2 then a else .nil).typeName
      c.fail s!"attempt to perform arithmetic on a {kind} value"
    else return [← callOne tm [a, b] c.inner]

/-- Runs a function. -/
def run (f : StringFn) (c : Call) : Task (List Value) := do
  match f with
  | .byte =>
    let s ← c.string 1
    let first ← c.intOr 2 1
    let last := lastPlace (← c.intOr 3 first) s.size
    return (part s (firstPlace first s.size) last).data.toList.map fun b => .ofNat b.toNat
  | .char =>
    let codes ← (List.range c.args.length).mapM fun i => do
      let n ← c.int (i + 1)
      if n < 0 || 255 < n then c.failArg (i + 1) (bytes "value out of range")
      return UInt8.ofNat n.toNat
    return [.str (ofByteList codes)]
  | .dump =>
    let _ ← c.function 1
    c.fail "unable to dump given function"
  | .find => findAux c true
  | .match_ => findAux c false
  | .format => Format.run c
  | .gmatch =>
    let s ← c.string 1
    let p ← c.string 2
    let start := min (firstPlace (← c.intOr 3 1) s.size - 1) (s.size + 1)
    let cell ← change fun m => m.newCell (.ofNat start)
    let _ ← change fun m => m.newCell .nil
    return [← newBuiltin (.matches_ s p cell)]
  | .gsub => replaceAll c
  | .len => return [.ofNat (← c.string 1).size]
  | .lower => return [.str ⟨(← c.string 1).data.map Match.lower⟩]
  | .upper => return [.str ⟨(← c.string 1).data.map Match.upper⟩]
  | .rep =>
    let s ← c.string 1
    let n ← c.int 2
    let sep ← c.stringOr 3 ByteArray.empty
    if n ≤ 0 then return [.str ByteArray.empty]
    if 0x4000000000000000 < (s.size + sep.size) * n then c.fail "resulting string too large"
    return [.str (repeatBytes s sep n.toNat ByteArray.empty)]
  | .reverse => return [.str ⟨(← c.string 1).data.reverse⟩]
  | .sub =>
    let s ← c.string 1
    let first := firstPlace (← c.int 2) s.size
    let last := lastPlace (← c.intOr 3 (-1)) s.size
    return [.str (part s first last)]
  | .pack => Pack.pack c
  | .packsize => Pack.size c
  | .unpack => Pack.unpack c
  | .arith op => calculate c op

end StringFn

end LuaSession.Lua
