import LuaSession.Lua.Value

/-!
# Tables

A table has a row of values for the keys 1, 2, … and slots for all other keys, in the order in which
they were first set. A key whose value was removed keeps its slot until the table is laid out anew,
so a traversal may remove what it meets. When the slots are used up, the row is made as long as the
greatest power of two below which more than half of the integer keys are in use.
-/

namespace LuaSession.Lua

/-- A table. `room` is the number of slots before the next layout. -/
structure Table where
  row : Array Value := #[]
  slots : Array (Value × Value) := #[]
  room : Nat := 0
  metatable : Option Nat := none
  deriving Inhabited

/-- A key in the form in which it is stored: a double that equals an integer is that integer. -/
def normalKey : Value → Value
  | .float x =>
    match int64OfFloat? x with
    | some n => .int n
    | none => .float x
  | v => v

/-- The place of an integer key in a row. -/
def rowPlace? (size : Nat) (n : Int64) : Option Nat :=
  let i := n.toInt
  if 1 ≤ i && i ≤ size then some (i.toNat - 1) else none

namespace Table

/-- The slot of a key in normal form, from place `i` on; `fuel` bounds the slots looked at. -/
def slotFrom (slots : Array (Value × Value)) (key : Value) : (fuel : Nat) → (i : Nat) → Option Nat
  | 0, _ => none
  | fuel + 1, i =>
    match slots[i]? with
    | some s => if rawEq s.1 key then some i else slotFrom slots key fuel (i + 1)
    | none => none

/-- The slot of a key in normal form. -/
def slot? (t : Table) (key : Value) : Option Nat :=
  slotFrom t.slots key t.slots.size 0

/-- The value of a key in normal form that is not in the row. -/
def getSlot (t : Table) (key : Value) : Value :=
  match t.slot? key with
  | some i => (t.slots.getD i (.nil, .nil)).2
  | none => .nil

/-- The value of an integer key. -/
def getInt (t : Table) (n : Int64) : Value :=
  match rowPlace? t.row.size n with
  | some i => t.row.getD i .nil
  | none => t.getSlot (.int n)

/-- The value of a key. -/
def get (t : Table) (key : Value) : Value :=
  match normalKey key with
  | .int n => t.getInt n
  | .nil => .nil
  | k => t.getSlot k

/-- The value of a string key. -/
def getText (t : Table) (key : String) : Value :=
  t.getSlot (.text key)

/-! ### Layout -/

/-- How many binary digits are needed for one less than an integer key: the keys with `b` digits
are those above `2 ^ (b - 1)` and up to `2 ^ b`. -/
def keyDigits (n : Nat) : Nat :=
  if n ≤ 1 then 0 else Nat.log2 (n - 1) + 1

/-- Counts an integer key by its digits. -/
def countKey (counts : Array Nat) (key : Value) : Array Nat :=
  match key with
  | .int n =>
    let i := n.toInt
    if 1 ≤ i && i ≤ 134217728 then counts.modify (keyDigits i.toNat) (· + 1) else counts
  | _ => counts

/-- The length of the row for these counts: the greatest power of two below which more than half of
the keys are used. `total` is the number of integer keys, `below` those counted so far. -/
def rowLength (counts : Array Nat) (total : Nat) :
    (fuel : Nat) → (digits power below best : Nat) → Nat
  | 0, _, _, _, best => best
  | fuel + 1, digits, power, below, best =>
    if power / 2 < total then
      let below := below + counts.getD digits 0
      rowLength counts total fuel (digits + 1) (power * 2) below
        (if power / 2 < below then power else best)
    else best

/-- The least power of two that is not below `n`, or zero for zero. -/
def slotRoom (n : Nat) : Nat :=
  if n == 0 then 0 else if n == 1 then 1 else Nat.pow 2 (Nat.log2 (n - 1) + 1)

/-- Adds a slot. -/
def addSlot (t : Table) (key value : Value) : Table :=
  { t with slots := t.slots.push (key, value) }

/-- Puts a value into a table that has a place for it. -/
def place (t : Table) (key value : Value) : Table :=
  match key with
  | .int n =>
    match rowPlace? t.row.size n with
    | some i => { t with row := t.row.setIfInBounds i value }
    | none => t.addSlot key value
  | _ => t.addSlot key value

/-- The entries of a table that hold a value, those of the row first. -/
def entries (t : Table) : List (Value × Value) :=
  let row := t.row.toList.zipIdx.filterMap fun (v, i) =>
    if v.isNil then none else some (Value.int (Int64.ofNat (i + 1)), v)
  row ++ t.slots.toList.filter fun s => !s.2.isNil

/-- The table with a row of length `length` and room for `others` other entries. -/
def layout (t : Table) (length others : Nat) : Table :=
  let fresh : Table :=
    { row := Array.replicate length .nil, slots := #[], room := slotRoom others,
      metatable := t.metatable }
  t.entries.foldl (fun acc e => acc.place e.1 e.2) fresh

/-- The table laid out anew with a place for one more key. -/
def grow (t : Table) (key : Value) : Table :=
  let es := t.entries
  let counts := countKey (es.foldl (fun c e => countKey c e.1) (Array.replicate 32 0)) key
  let total := counts.foldl (· + ·) 0
  let length := rowLength counts total 32 0 1 0 0
  let inRow := (List.range 32).foldl
    (fun n d => if Nat.pow 2 d ≤ length then n + counts.getD d 0 else n) 0
  t.layout length (es.length + 1 - inRow)

/-- Sets the value of a key in normal form that is not in the row. -/
def putSlot (t : Table) (key value : Value) : Table :=
  match t.slot? key with
  | some i => { t with slots := t.slots.modify i fun s => (s.1, value) }
  | none =>
    if value.isNil then t
    else if t.slots.size < t.room then t.addSlot key value
    else (t.grow key).place key value

/-- Sets the value of a key in normal form, which is neither nil nor not a number. -/
def put (t : Table) (key value : Value) : Table :=
  match key with
  | .int n =>
    match rowPlace? t.row.size n with
    | some i => { t with row := t.row.setIfInBounds i value }
    | none => t.putSlot key value
  | _ => t.putSlot key value

/-- Sets the value of a key. -/
def set (t : Table) (key value : Value) : Table :=
  t.put (normalKey key) value

/-- Sets the value of a string key. -/
def setText (t : Table) (key : String) (value : Value) : Table :=
  t.put (.text key) value

/-- A table made for `row` list items and `others` other entries. -/
def sized (row others : Nat) : Table :=
  { row := Array.replicate row .nil, slots := #[], room := slotRoom others }

/-- The list with these items. -/
def ofList (vs : List Value) : Table :=
  { row := vs.toArray }

/-- The table with these fields. -/
def ofFields (fields : List (Value × Value)) : Table :=
  fields.foldl (fun t f => t.set f.1 f.2) (sized 0 fields.length)

/-! ### Length -/

/-- A border between a place with a value and one without, by halving. -/
def halve (filled : Nat → Bool) : (fuel low high : Nat) → Nat
  | 0, low, _ => low
  | fuel + 1, low, high =>
    if high - low ≤ 1 then low
    else
      let mid := (low + high) / 2
      if filled mid then halve filled fuel mid high else halve filled fuel low mid

/-- A border beyond the row, by doubling until a key is missing. -/
def double (filled : Nat → Bool) : (fuel low high : Nat) → Nat
  | 0, low, _ => low
  | fuel + 1, low, high =>
    if filled high then double filled fuel high (high * 2) else halve filled 64 low high

/-- A border of the table: zero, or a key with a value whose next key has none. -/
def length (t : Table) : Nat :=
  let n := t.row.size
  let filled (i : Nat) : Bool := !(t.getInt (Int64.ofNat i)).isNil
  if 0 < n && !filled n then
    if 2 ≤ n && filled (n - 1) then n - 1 else halve filled 64 0 n
  else if t.slots.isEmpty || !filled (n + 1) then n
  else
    let low := if n == 0 then 1 else n
    if n == 0 then double filled 62 1 2 else double filled 62 low (low * 2)

/-! ### Traversal -/

/-- The first entry of the row with a value, from place `i` on. -/
def rowEntryFrom (row : Array Value) : (fuel i : Nat) → Option (Value × Value)
  | 0, _ => none
  | fuel + 1, i =>
    match row[i]? with
    | some .nil => rowEntryFrom row fuel (i + 1)
    | some v => some (.int (Int64.ofNat (i + 1)), v)
    | none => none

/-- The first slot with a value, from place `i` on. -/
def slotEntryFrom (slots : Array (Value × Value)) : (fuel i : Nat) → Option (Value × Value)
  | 0, _ => none
  | fuel + 1, i =>
    match slots[i]? with
    | some (_, .nil) => slotEntryFrom slots fuel (i + 1)
    | some e => some e
    | none => none

/-- The entry after place `i` of the row, counted from 0, or the first slot after the row. -/
def entryFrom (t : Table) (i : Nat) : Option (Value × Value) :=
  (rowEntryFrom t.row (t.row.size + 1) i).orElse fun _ =>
    slotEntryFrom t.slots (t.slots.size + 1) 0

/-- The entry after a key, or the first; `none` if the key is not in the table, and `some none`
after the last. -/
def next? (t : Table) (key : Value) : Option (Option (Value × Value)) :=
  let inSlots (k : Value) : Option (Option (Value × Value)) :=
    (t.slot? k).map fun i => slotEntryFrom t.slots (t.slots.size + 1) (i + 1)
  match normalKey key with
  | .nil => some (t.entryFrom 0)
  | .int n =>
    match rowPlace? t.row.size n with
    | some i => some (t.entryFrom (i + 1))
    | none => inSlots (.int n)
  | k => inSlots k

end Table

end LuaSession.Lua
