import LuaSession.Pattern.Regex

/-!
# The size of compiled patterns

An estimate, in bytes, of the automata over bytes that a pattern stands for, one that reads forward
and one that reads backward. A pattern whose estimate exceeds the limit is refused, so repetitions
may be written out without harm. Every state counts 32 bytes, every branch of a state 4 or 8.
-/

namespace LuaSession.Pattern

open LuaSession.Unicode

/-- A row of byte ranges: the encodings of a stretch of characters. -/
abbrev ByteRow := List (Nat × Nat)

/-- The bytes of a code point. -/
def utf8Bytes (n : Nat) : List Nat :=
  if n < 0x80 then [n]
  else if n < 0x800 then [0xC0 + n / 64, 0x80 + n % 64]
  else if n < 0x10000 then [0xE0 + n / 4096, 0x80 + n / 64 % 64, 0x80 + n % 64]
  else [0xF0 + n / 262144, 0x80 + n / 4096 % 64, 0x80 + n / 64 % 64, 0x80 + n % 64]

/-- Where a stretch has to be cut so that its encodings vary only in whole trailing bytes. -/
def cutPoint? (first last : Nat) : Option Nat :=
  if first ≤ 0x7F && 0x7F < last then some 0x7F
  else if first ≤ 0x7FF && 0x7FF < last then some 0x7FF
  else if first ≤ 0xFFFF && 0xFFFF < last then some 0xFFFF
  else if last ≤ 0x7F then none
  else
    [64, 4096, 262144].findSome? fun unit =>
      if first / unit == last / unit then none
      else if first % unit != 0 then some (first / unit * unit + unit - 1)
      else if last % unit != unit - 1 then some (last / unit * unit - 1)
      else none

/-- The rows of byte ranges of a stretch of characters; `fuel` bounds the cuts. -/
def byteRows : (fuel : Nat) → (first last : Nat) → List ByteRow
  | 0, _, _ => []
  | fuel + 1, first, last =>
    if last < first then []
    else if first < 0xE000 && 0xD7FF < last then
      byteRows fuel first 0xD7FF ++ byteRows fuel 0xE000 last
    else
      match cutPoint? first last with
      | some p => byteRows fuel first p ++ byteRows fuel (p + 1) last
      | none => [(utf8Bytes first).zip (utf8Bytes last)]

/-- The rows of a set of characters. -/
def Ranges.byteRows (rs : Ranges) : List ByteRow :=
  rs.flatMap fun r => Pattern.byteRows 16 r.1 r.2

/-- Rows with the same first range put together. -/
def groupRows : List ByteRow → List ((Nat × Nat) × List ByteRow)
  | [] => []
  | [] :: rest => groupRows rest
  | (b :: r) :: rest =>
    match groupRows rest with
    | (b', rows) :: more => if b == b' then (b, r :: rows) :: more else (b, [r]) :: (b', rows) :: more
    | [] => [(b, [r])]

/-- States that were written before: each with its branches. -/
abbrev States := List (List (Nat × Nat × Nat))

mutual

/-- The number of the state that reads some rows, written if it is new. Number 0 is the end. -/
def stateOf : (depth : Nat) → List ByteRow → States → Nat × States
  | 0, _, states => (0, states)
  | depth + 1, rows, states =>
    let (branches, states) := branchesOf depth (groupRows rows) states
    match states.reverse.findIdx? (· == branches) with
    | some i => (i + 1, states)
    | none => (states.length + 1, branches :: states)

/-- The branches of a state. -/
def branchesOf (depth : Nat) : List ((Nat × Nat) × List ByteRow) → States →
    List (Nat × Nat × Nat) × States
  | [], states => ([], states)
  | (b, rows) :: rest, states =>
    let (target, states) := if rows.all List.isEmpty then (0, states) else stateOf depth rows states
    let (more, states) := branchesOf depth rest states
    ((b.1, b.2, target) :: more, states)

end

/-- The beginnings of rows that differ, as many as a reader from the back needs states. -/
def prefixCount (rows : List ByteRow) : Nat :=
  (rows.foldl (fun (acc : Nat × ByteRow) row =>
    let same := (acc.2.zip row).takeWhile (fun p => p.1 == p.2)
    (acc.1 + (row.length - same.length), row)) (0, [])).1

/-- The two weights of a set of characters: reading forward and backward. -/
def Ranges.weight (rs : Ranges) : Nat × Nat :=
  if rs.isAscii then
    match rs with
    | [(a, b)] => if a == b then (32, 32) else (72, 72)
    | _ => (64 + 8 * rs.length, 64 + 8 * rs.length)
  else
    match rs with
    | [(a, b)] =>
      if a == b then (32 * (utf8Bytes a).length, 32 * (utf8Bytes a).length) else go rs
    | _ => go rs
where
  /-- The weights of a set that needs more than one byte. -/
  go (rs : Ranges) : Nat × Nat :=
    let rows := Ranges.byteRows rs
    let (_, states) := stateOf 4 rows []
    (32 + states.foldl (fun n s => n + 32 + 8 * s.length) 0,
      64 + 4 * rows.length + 32 * prefixCount rows)

/-- The weight of an expression by the weights of its sets and of a group. -/
def Regex.weightBy (set : Ranges → Nat) (group : Nat) : Regex → Nat
  | .empty | .look _ => 32
  | .chars rs => set rs
  | .both a b => a.weightBy set group + b.weightBy set group
  | .either a b => a.weightBy set group + b.weightBy set group + 40
  | .group r => r.weightBy set group + group
  | .repeated least most _ r =>
    let w := r.weightBy set group
    match most with
    | some m => w * least + (w + 40) * (m - least) + 32
    | none => w * max least 1 + 112

/-- The limit of the estimate. -/
def sizeLimit : Nat := 10485760

/-- Whether the estimate of an expression exceeds the limit. The sets are weighed only when a
cheap bound of their weights does not settle it. -/
def Regex.isTooLarge (r : Regex) : Bool :=
  let bound (rs : Ranges) : Nat := 128 + 800 * rs.length
  if r.weightBy bound 64 ≤ sizeLimit then false
  else
    sizeLimit < r.weightBy (fun rs => (Ranges.weight rs).1) 64 + 256 ||
      sizeLimit < r.weightBy (fun rs => (Ranges.weight rs).2) 0 + 256

end LuaSession.Pattern
