import LuaSession.Lua.Task
import LuaSession.Text.Utf8

/-!
# Values as JSON

`Mem.ofJson` makes a JSON value into a value of programs, `Mem.json?` the other way where there is a
way: functions, coroutines and host objects have no JSON form, nor has a value from which a number
that is not finite or the table itself can be reached. A table with a sequence, or one marked as a
list, is an array of its sequence; any other is an object, if its keys are texts.
-/

namespace LuaSession.Lua

namespace Mem

/-! ### From JSON -/

mutual

/-- The value of a JSON value. Null is nil, and an array is marked as a list. -/
def ofJson (m : Mem) : Json → Value × Mem
  | .null => (.nil, m)
  | .bool b => (.bool b, m)
  | .int n => (if n < 0x8000000000000000 then .int (Int64.ofInt n) else .float (Number.floatOfInt n), m)
  | .float x => (.float x, m)
  | .str s => (.text s, m)
  | .arr items =>
    let (vs, m) := ofJsonItems m items
    let (id, m) := m.newTable { Table.ofList vs with metatable := m.listMeta }
    (.table id, m)
  | .obj fields =>
    let (fs, m) := ofJsonFields m fields
    let (id, m) := m.newTable (Table.ofFields fs)
    (.table id, m)

/-- The values of the items of an array. -/
def ofJsonItems (m : Mem) : List Json → List Value × Mem
  | [] => ([], m)
  | j :: js =>
    let (v, m) := ofJson m j
    let (vs, m) := ofJsonItems m js
    (v :: vs, m)

/-- The fields of an object. -/
def ofJsonFields (m : Mem) : List (String × Json) → List (Value × Value) × Mem
  | [] => ([], m)
  | (k, j) :: js =>
    let (v, m) := ofJson m j
    let (fs, m) := ofJsonFields m js
    ((.text k, v) :: fs, m)

end

/-! ### Numbers that are not finite -/

/-- The keys and values of a table. -/
def contents (m : Mem) (id : Nat) : List Value :=
  (m.table id).entries.flatMap fun e => [e.1, e.2]

/-- Marking a place that is not marked leaves one place less. -/
theorem countP_set_true {seen : Array Bool} {id : Nat} (h : id < seen.size)
    (hs : seen[id] = false) :
    (seen.set id true h).countP (!·) + 1 = seen.countP (!·) := by
  have hp : 0 < seen.countP (!·) := Array.countP_pos_iff.2 ⟨seen[id], by simp, by simp [hs]⟩
  simp [Array.countP_set, hs]
  omega

/-- Whether a number that is not finite can be reached from some values through the keys and values
of tables; `seen` marks the tables whose contents were already put among the values. -/
def reachesNonFinite (m : Mem) (seen : Array Bool) : List Value → Bool
  | [] => false
  | .float x :: rest => !Number.isFinite x || reachesNonFinite m seen rest
  | .table id :: rest =>
    if h : id < seen.size then
      if seen[id] = false then
        reachesNonFinite m (seen.set id true h) (m.contents id ++ rest)
      else reachesNonFinite m seen rest
    else reachesNonFinite m seen rest
  | _ :: rest => reachesNonFinite m seen rest
termination_by work => (seen.countP (!·), work.length)
decreasing_by
  · exact Prod.Lex.right _ (by simp)
  · rename_i hs
    apply Prod.Lex.left
    have := countP_set_true h hs
    omega
  · exact Prod.Lex.right _ (by simp)
  · exact Prod.Lex.right _ (by simp)
  · exact Prod.Lex.right _ (by simp)

/-- Whether a number that is not finite can be reached from a value. -/
def hasNonFinite (m : Mem) (v : Value) : Bool :=
  m.reachesNonFinite (Array.replicate m.tables.size false) [v]

/-! ### To JSON -/

/-- Whether a table is marked as a list. -/
def isList (m : Mem) (t : Table) : Bool :=
  t.metatable.isSome && t.metatable == m.listMeta

/-- The text of a byte string that is UTF-8. -/
def utf8? (s : ByteArray) : Option String :=
  (Text.Utf8.decode? s).toOption

/-- The values of the keys from `i` on, up to the first that has none. -/
def sequenceFrom (t : Table) : (fuel : Nat) → (i : Nat) → List Value
  | 0, _ => []
  | fuel + 1, i =>
    match t.getInt (Int64.ofNat i) with
    | .nil => []
    | v => v :: sequenceFrom t fuel (i + 1)

/-- The sequence of a table. -/
def sequence (t : Table) : List Value :=
  sequenceFrom t (t.row.size + t.slots.size) 1

/-- The key of a field of an object. -/
def fieldKey? : Value → Option String
  | .str s => utf8? s
  | _ => none

/-- The JSON form of a value inside the tables of `path`; `fuel` bounds the tables inside one
another. -/
def jsonFrom (m : Mem) : (fuel : Nat) → (path : List Nat) → Value → Option Json
  | _, _, .nil => some .null
  | _, _, .bool b => some (.bool b)
  | _, _, .int n => some (.int n.toInt)
  | _, _, .float x => some (.float x)
  | _, _, .str s => (utf8? s).map .str
  | fuel + 1, path, .table id =>
    if path.contains id then none
    else
      let t := m.table id
      if t.length != 0 || m.isList t then
        ((sequence t).mapM (jsonFrom m fuel (id :: path))).map .arr
      else
        let field (e : Value × Value) : Option (String × Json) :=
          match fieldKey? e.1, jsonFrom m fuel (id :: path) e.2 with
          | some key, some v => some (key, v)
          | _, _ => none
        (t.entries.mapM field).map Json.ofFields
  | _, _, _ => none

/-- The JSON form of a value. -/
def json? (m : Mem) (v : Value) : Option Json :=
  if m.hasNonFinite v then none else m.jsonFrom (m.tables.size + 1) [] v

end Mem

end LuaSession.Lua
