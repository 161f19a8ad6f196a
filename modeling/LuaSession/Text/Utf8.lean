/-!
# UTF-8 with replacement characters

Reading bytes as text. A byte sequence that starts like a character but cannot be completed is
replaced, up to the byte that breaks it, by one replacement character; the byte that breaks it is
then read anew. The reader is a state machine that goes over the bytes once.
-/

namespace LuaSession.Text.Utf8

/-- What stands in the text for bytes that are no character. -/
def replacement : Char := '\uFFFD'

/-- The state between two bytes: at a boundary, or inside a character that still needs `need`
bytes, the next one between `lo` and `hi`; `acc` is the code read so far. -/
inductive Pending
  | boundary
  | inside (need : Nat) (lo hi : UInt8) (acc : Nat)
  deriving DecidableEq, Repr

/-- Reads a byte at a boundary: the character it completes, if any, and the state after it. -/
def start (b : UInt8) : Option Char × Pending :=
  if b < 0x80 then (some (Char.ofNat b.toNat), .boundary)
  else if b < 0xC2 then (some replacement, .boundary)
  else if b < 0xE0 then (none, .inside 1 0x80 0xBF (b.toNat - 0xC0))
  else if b == 0xE0 then (none, .inside 2 0xA0 0xBF 0)
  else if b == 0xED then (none, .inside 2 0x80 0x9F 0xD)
  else if b < 0xF0 then (none, .inside 2 0x80 0xBF (b.toNat - 0xE0))
  else if b == 0xF0 then (none, .inside 3 0x90 0xBF 0)
  else if b < 0xF4 then (none, .inside 3 0x80 0xBF (b.toNat - 0xF0))
  else if b == 0xF4 then (none, .inside 3 0x80 0x8F 4)
  else (some replacement, .boundary)

/-- The code extended by the six bits of a continuation byte. -/
def extend (acc : Nat) (b : UInt8) : Nat :=
  acc * 64 + (b.toNat - 0x80)

/-- The characters of the bytes, read from the state `p` on. -/
def decodeFrom : Pending → List UInt8 → List Char
  | .boundary, [] => []
  | .inside .., [] => [replacement]
  | .boundary, b :: r =>
    match start b with
    | (some c, p) => c :: decodeFrom p r
    | (none, p) => decodeFrom p r
  | .inside need lo hi acc, b :: r =>
    if lo ≤ b && b ≤ hi then
      if need ≤ 1 then Char.ofNat (extend acc b) :: decodeFrom .boundary r
      else decodeFrom (.inside (need - 1) 0x80 0xBF (extend acc b)) r
    else
      match start b with
      | (some c, p) => replacement :: c :: decodeFrom p r
      | (none, p) => replacement :: decodeFrom p r

/-- The characters of the bytes. -/
def decode (bs : List UInt8) : List Char :=
  decodeFrom .boundary bs

/-- The text of a byte array. -/
def decodeBytes (bs : ByteArray) : String :=
  String.ofList (decode bs.toList)

/-- Where bytes stop being UTF-8: the offset at which the last whole character ends, and how many
bytes after it are no beginning of a character; none if the bytes end inside one. -/
structure Fault where
  offset : Nat
  length : Option Nat
  deriving DecidableEq, Repr

/-- The first fault of the bytes read from state `p` on; the last boundary was at `offset`, and
`taken` bytes have been read since. -/
def faultFrom : Pending → (offset taken : Nat) → List UInt8 → Option Fault
  | .boundary, _, _, [] => none
  | .inside .., offset, _, [] => some ⟨offset, none⟩
  | .boundary, offset, _, b :: r =>
    match start b with
    | (some _, p) =>
      if b < 0x80 then faultFrom p (offset + 1) 0 r else some ⟨offset, some 1⟩
    | (none, p) => faultFrom p offset 1 r
  | .inside need lo hi acc, offset, taken, b :: r =>
    if lo ≤ b && b ≤ hi then
      if need ≤ 1 then faultFrom .boundary (offset + taken + 1) 0 r
      else faultFrom (.inside (need - 1) 0x80 0xBF (extend acc b)) offset (taken + 1) r
    else some ⟨offset, some taken⟩

/-- The first fault of the bytes; none if they are UTF-8. -/
def fault? (bs : List UInt8) : Option Fault :=
  faultFrom .boundary 0 0 bs

/-- The wording of a fault. -/
def Fault.message (f : Fault) : String :=
  match f.length with
  | some n => s!"invalid utf-8 sequence of {n} bytes from index {f.offset}"
  | none => s!"incomplete utf-8 byte sequence from index {f.offset}"

/-- The text of bytes that are UTF-8. -/
def decode? (bs : ByteArray) : Except Fault String :=
  match fault? bs.toList with
  | some f => .error f
  | none => .ok (decodeBytes bs)

end LuaSession.Text.Utf8
