import LuaSession.Lua.Arguments

/-!
# Binary layouts

Values laid out as bytes after a format, and read back: integers of one to sixteen bytes in either
order of bytes, doubles and floats, strings with a length before them or a zero after them, and
padding up to an alignment.
-/

namespace LuaSession.Lua.Pack

open LuaSession.Lua.Task

/-- One item of a layout. -/
inductive Item
  | integer (isSigned : Bool) (size : Nat)
  | single
  | double
  | fixed (size : Nat)
  | counted (size : Nat)
  | zeroEnded
  | padding
  | align
  | nothing
  deriving DecidableEq, Repr

/-- The order of bytes and the greatest alignment. -/
structure Style where
  little : Bool := true
  maxAlign : Nat := 1
  deriving Repr

/-- The number at the beginning of a format, if there is one. -/
def count? (s : List UInt8) : Option Nat × List UInt8 :=
  match digitRun Number.digitValue? s with
  | ([], _) => (none, s)
  | (ds, rest) => (some (Number.ofDigits ds), rest)

/-- A size between 1 and 16. -/
def limited (c : Call) (size : Option Nat) (default : Nat) : Task Nat := do
  let n := size.getD default
  if n < 1 || 16 < n then
    let shown := String.ofList (Number.natChars n)
    c.fail s!"integral size ({shown}) out of limits [1,16]"
  return n

/-- The item that a letter begins, the style after it and the rest of the format. -/
def item (c : Call) (style : Style) (b : UInt8) (s : List UInt8) :
    Task (Item × Style × List UInt8) := do
  let (size, rest) := count? s
  match byteChar b with
  | 'b' => return (.integer true 1, style, s)
  | 'B' => return (.integer false 1, style, s)
  | 'h' => return (.integer true 2, style, s)
  | 'H' => return (.integer false 2, style, s)
  | 'l' | 'j' => return (.integer true 8, style, s)
  | 'L' | 'J' | 'T' => return (.integer false 8, style, s)
  | 'i' => return (.integer true (← limited c size 4), style, rest)
  | 'I' => return (.integer false (← limited c size 4), style, rest)
  | 's' => return (.counted (← limited c size 8), style, rest)
  | 'f' => return (.single, style, s)
  | 'd' | 'n' => return (.double, style, s)
  | 'c' =>
    match size with
    | some n => return (.fixed n, style, rest)
    | none => c.fail "missing size for format option 'c'"
  | 'z' => return (.zeroEnded, style, s)
  | 'x' => return (.padding, style, s)
  | 'X' => return (.align, style, s)
  | ' ' => return (.nothing, style, s)
  | '<' => return (.nothing, { style with little := true }, s)
  | '>' => return (.nothing, { style with little := false }, s)
  | '=' => return (.nothing, { style with little := true }, s)
  | '!' => return (.nothing, { style with maxAlign := ← limited c size 8 }, rest)
  | ch => c.fail ("invalid format option '" ++ String.ofList [ch] ++ "'")

/-- The alignment that an item asks for. -/
def Item.alignment : Item → Nat
  | .integer _ n | .counted n => n
  | .single => 4
  | .double => 8
  | _ => 0

/-- The size of an item whose size does not hang on a value. -/
def Item.size : Item → Nat
  | .integer _ n | .fixed n => n
  | .single => 4
  | .double => 8
  | .padding => 1
  | _ => 0

/-- How many bytes of padding come before an item at a place. -/
def paddingBefore (c : Call) (style : Style) (wanted place : Nat) : Task Nat := do
  let a := min wanted style.maxAlign
  if a ≤ 1 then return 0
  if (a &&& (a - 1)) != 0 then c.failArg 1 (bytes "format asks for alignment not power of 2")
  return (a - place % a) % a

/-- The next item with its padding: for an alignment without a value the item that follows it tells
how far. -/
def next (c : Call) (style : Style) (b : UInt8) (s : List UInt8) (place : Nat) :
    Task (Item × Nat × Style × List UInt8) := do
  let (it, style, rest) ← item c style b s
  match it with
  | .align =>
    match rest with
    | [] => c.failArg 1 (bytes "invalid next option for option 'X'")
    | b' :: s' =>
      let (following, style, rest) ← item c style b' s'
      if following.alignment == 0 then
        c.failArg 1 (bytes "invalid next option for option 'X'")
      return (.align, ← paddingBefore c style following.alignment place, style, rest)
  | _ => return (it, ← paddingBefore c style it.alignment place, style, rest)

/-- The bytes of an integer. -/
def intBytes (style : Style) (n : Int) (size : Nat) : List UInt8 :=
  let v := (n % (Nat.pow 256 size : Nat)).toNat
  let bs := (List.range size).map fun i => UInt8.ofNat (v / Nat.pow 256 i % 256)
  if style.little then bs else bs.reverse

/-- The number that bytes stand for. -/
def natOfBytes (style : Style) (bs : List UInt8) : Nat :=
  (if style.little then bs.reverse else bs).foldl (fun n b => n * 256 + b.toNat) 0

/-- Zeros. -/
def zeros (n : Nat) : ByteArray := ofByteList (List.replicate n 0)

/-- Lays out the arguments from argument `n` on. -/
def packFrom (c : Call) : (fuel : Nat) → (style : Style) → (s : List UInt8) → (n : Nat) →
    (acc : ByteArray) → Task ByteArray
  | 0, _, _, _, acc => pure acc
  | fuel + 1, style, s, n, acc =>
    match s with
    | [] => pure acc
    | b :: r => do
      let (it, pad, style, rest) ← next c style b r acc.size
      let acc := acc ++ zeros pad
      match it with
      | .integer isSigned size =>
        let v ← c.int n
        if size < 8 then
          let lim : Int := (Nat.pow 2 (size * 8) : Nat)
          if isSigned then
            if v < -(lim / 2) || lim / 2 ≤ v then c.failArg n (bytes "integer overflow")
          else if v % 0x10000000000000000 ≥ lim then c.failArg n (bytes "unsigned overflow")
        packFrom c fuel style rest (n + 1) (acc ++ ofByteList (intBytes style v size))
      | .single =>
        let x ← c.float n
        packFrom c fuel style rest (n + 1)
          (acc ++ ofByteList (intBytes style x.toFloat32.toBits.toNat 4))
      | .double =>
        let x ← c.float n
        packFrom c fuel style rest (n + 1)
          (acc ++ ofByteList (intBytes style x.toBits.toNat 8))
      | .fixed size =>
        let t ← c.string n
        if size < t.size then c.failArg n (bytes "string longer than given size")
        packFrom c fuel style rest (n + 1) (acc ++ t ++ zeros (size - t.size))
      | .counted size =>
        let t ← c.string n
        if size < 8 && Nat.pow 2 (size * 8) ≤ t.size then
          c.failArg n (bytes "string length does not fit in given size")
        packFrom c fuel style rest (n + 1)
          (acc ++ ofByteList (intBytes style t.size size) ++ t)
      | .zeroEnded =>
        let t ← c.string n
        if t.data.contains 0 then c.failArg n (bytes "string contains zeros")
        packFrom c fuel style rest (n + 1) ((acc ++ t).push 0)
      | .padding => packFrom c fuel style rest n (acc.push 0)
      | .align | .nothing => packFrom c fuel style rest n acc

/-- The size of a layout from a place on. -/
def sizeFrom (c : Call) : (fuel : Nat) → (style : Style) → (s : List UInt8) → (total : Nat) →
    Task Nat
  | 0, _, _, total => pure total
  | fuel + 1, style, s, total =>
    match s with
    | [] => pure total
    | b :: r => do
      let (it, pad, style, rest) ← next c style b r total
      match it with
      | .counted _ | .zeroEnded => c.failArg 1 (bytes "variable-length format")
      | _ => sizeFrom c fuel style rest (total + pad + it.size)

/-- An integer read from bytes; more than eight bytes must only extend the number. -/
def readInt (c : Call) (style : Style) (isSigned : Bool) (bs : List UInt8) : Task Value := do
  let n := natOfBytes style bs
  let size := bs.length
  if size ≤ 8 then
    let v : Int :=
      if isSigned && Nat.pow 2 (size * 8 - 1) ≤ n then (n : Int) - (Nat.pow 2 (size * 8) : Nat) else n
    return .int (Int64.ofInt v)
  else
    let low := n % 0x10000000000000000
    let high := n / 0x10000000000000000
    let ones := Nat.pow 2 ((size - 8) * 8) - 1
    if high == 0 || (isSigned && high == ones && 0x8000000000000000 ≤ low) then
      return .int (Int64.ofNat low)
    else
      let shown := String.ofList (Number.natChars size)
      c.fail s!"{shown}-byte integer does not fit into Lua Integer"

/-- Reads values from place `i` of a string; the last value is the place after what was read. -/
def unpackFrom (c : Call) (t : ByteArray) : (fuel : Nat) → (style : Style) → (s : List UInt8) →
    (i : Nat) → Task (List Value)
  | 0, _, _, i => pure [.ofNat (i + 1)]
  | fuel + 1, style, s, i =>
    match s with
    | [] => pure [.ofNat (i + 1)]
    | b :: r => do
      let (it, pad, style, rest) ← next c style b r i
      let i := i + pad
      let part (n : Nat) : List UInt8 := (sliceBytes t i (i + n)).data.toList
      if t.size < i + it.size then c.failArg 2 (bytes "data string too short")
      match it with
      | .integer isSigned size =>
        let v ← readInt c style isSigned (part size)
        return v :: (← unpackFrom c t fuel style rest (i + size))
      | .single =>
        let x := Float32.ofBits (UInt32.ofNat (natOfBytes style (part 4)))
        return .float x.toFloat :: (← unpackFrom c t fuel style rest (i + 4))
      | .double =>
        let x := Float.ofBits (UInt64.ofNat (natOfBytes style (part 8)))
        return .float x :: (← unpackFrom c t fuel style rest (i + 8))
      | .fixed size =>
        return .str (sliceBytes t i (i + size)) :: (← unpackFrom c t fuel style rest (i + size))
      | .counted size =>
        if t.size < i + size then c.failArg 2 (bytes "data string too short")
        let n := natOfBytes style (part size)
        if t.size < i + size + n then c.failArg 2 (bytes "data string too short")
        return .str (sliceBytes t (i + size) (i + size + n)) ::
          (← unpackFrom c t fuel style rest (i + size + n))
      | .zeroEnded =>
        let content := ((sliceBytes t i t.size).data.toList).takeWhile (· != 0)
        if t.size ≤ i + content.length then
          c.failArg 2 (bytes "unfinished string for format 'z'")
        return .str (ofByteList content) ::
          (← unpackFrom c t fuel style rest (i + content.length + 1))
      | .padding => unpackFrom c t fuel style rest (i + 1)
      | .align | .nothing => unpackFrom c t fuel style rest i

/-- The bytes of the arguments after a format. -/
def pack (c : Call) : Task (List Value) := do
  let s ← c.string 1
  let bs := s.data.toList
  return [.str (← packFrom c (bs.length + 1) {} bs 2 ByteArray.empty)]

/-- The size of what a format lays out. -/
def size (c : Call) : Task (List Value) := do
  let s ← c.string 1
  let bs := s.data.toList
  return [.ofNat (← sizeFrom c (bs.length + 1) {} bs 0)]

/-- The values read from a string. -/
def unpack (c : Call) : Task (List Value) := do
  let s ← c.string 1
  let t ← c.string 2
  let start ← c.intOr 3 1
  let i : Int :=
    if 0 < start then start
    else if start == 0 then 1
    else if start < -(t.size : Int) then 1
    else t.size + start + 1
  if (t.size : Int) < i - 1 then c.failArg 3 (bytes "initial position out of string")
  let bs := s.data.toList
  unpackFrom c t (bs.length + 1) {} bs (i - 1).toNat

end LuaSession.Lua.Pack
