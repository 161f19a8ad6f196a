/-!
# JSON values

Numbers are integers when they fit in 64 bits with or without a sign, and doubles otherwise. The
fields of an object are kept in the order of their keys, each key once; the last value given for a
key stays.

* `Json.lookup_insertField` is the law of the field store.
-/

namespace LuaSession

/-- A JSON value. -/
inductive Json
  | null
  | bool (b : Bool)
  | int (n : Int)
  | float (x : Float)
  | str (s : String)
  | arr (items : List Json)
  | obj (fields : List (String × Json))
  deriving Inhabited

namespace Json

/-- Puts a field into fields that are in the order of their keys; a field of the same key is
replaced. -/
def insertField (key : String) (value : Json) : List (String × Json) → List (String × Json)
  | [] => [(key, value)]
  | (k, v) :: rest =>
    if key < k then (key, value) :: (k, v) :: rest
    else if key = k then (key, value) :: rest
    else (k, v) :: insertField key value rest

/-- The object with these fields; of those with one key the last is in force. -/
def ofFields (fields : List (String × Json)) : Json :=
  .obj (fields.foldl (fun acc f => insertField f.1 f.2 acc) [])

/-- The value of a key among fields. -/
def lookup (key : String) : List (String × Json) → Option Json
  | [] => none
  | (k, v) :: rest => if k = key then some v else lookup key rest

/-- The member of an object. -/
def field? (key : String) : Json → Option Json
  | .obj fields => lookup key fields
  | _ => none

/-- Whether the value is an object. -/
def isObject : Json → Bool
  | .obj _ => true
  | _ => false

/-- The text of a string value. -/
def text? : Json → Option String
  | .str s => some s
  | _ => none

/-- Whether an integer fits in 64 bits, with a sign or without. -/
def fits (n : Int) : Bool :=
  decide (-(0x8000000000000000 : Int) ≤ n) && decide (n < 0x10000000000000000)

/-- A field that was put in is found, and the others are found as before. -/
theorem lookup_insertField (key other : String) (value : Json) (fields : List (String × Json)) :
    lookup other (insertField key value fields) =
      if key = other then some value else lookup other fields := by
  induction fields with
  | nil => simp [insertField, lookup]
  | cons f rest ih =>
    obtain ⟨k, v⟩ := f
    by_cases h : key < k
    · simp [insertField, lookup, h]
    · by_cases he : key = k
      · subst he
        by_cases ho : key = other <;> simp [insertField, lookup, ho]
      · simp only [insertField, h, he, if_false, lookup, ih]
        by_cases ho : k = other
        · subst ho; simp [he]
        · simp [ho]

end Json

end LuaSession
