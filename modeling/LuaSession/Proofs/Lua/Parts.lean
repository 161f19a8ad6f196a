import LuaSession.Proofs.Json.Contents
import LuaSession.Proofs.Lua.Exchange
import LuaSession.Proofs.Text.Encoding

/-!
# The parts of a value in its JSON form

Values are reached from a value through the keys of tables, and parts of a JSON value in the same way: an
array has its items under the numbers from 1 on, an object its fields under their names. A table that is
read as a list gives an array of its sequence and nothing else; so what it holds under other keys is lost,
although the value has a JSON form. This is the only way in which something is lost.

* `Mem.Reaches`: what is reached through some keys, and `Json.parts?`: what stands there in a JSON value.
* `Mem.Complete`: no part is lost, and a value that could lose some has no JSON form.
* `Mem.complete_iff`: values of which this is true.
-/

namespace LuaSession

open LuaSession.Lua

/-! ### Parts of a JSON value -/

/-- What stands under a key: an item by its place, counted from 1, or a field by its name. -/
def Json.part? (j : Json) (k : Lua.Value) : Option Json :=
  match j, normalKey k with
  | .arr items, .int n => if 1 ≤ n.toInt then items[n.toInt.toNat - 1]? else none
  | .obj fields, .str s => (Mem.utf8? s).bind fun name => Json.lookup name fields
  | _, _ => none

/-- What is reached through some keys, one after the other. -/
def Json.parts? (j : Json) : List Lua.Value → Option Json
  | [] => some j
  | k :: ks => (j.part? k).bind fun v => v.parts? ks

theorem Json.parts?_append (j : Json) (ks ks' : List Lua.Value) :
    j.parts? (ks ++ ks') = (j.parts? ks).bind fun v => v.parts? ks' := by
  induction ks generalizing j with
  | nil => rfl
  | cons k ks ih =>
    rw [List.cons_append, parts?, parts?, Option.bind_assoc]
    exact congrArg _ (funext ih)

namespace Lua

/-! ### Parts of a value -/

/-- All that a table holds is a sequence. -/
def Table.IsSequence (t : Table) : Prop :=
  ∃ vs, t.Lists vs ∧
    ∀ k, (t.get k).isNil = false → ∃ i < vs.length, normalKey k = .int (Int64.ofNat (i + 1))

/-- All that a table holds is under strings. -/
def Table.IsRecord (t : Table) : Prop := ∀ k, (t.get k).isNil = false → ∃ s, k = .str s

/-- A table without slots is a sequence, if there is no nil in its row. -/
theorem Table.isSequence_row {row : Array Value} (room : Nat) (mark : Option Nat)
    (hsize : row.size + 1 < 0x8000000000000000) (hrow : ∀ v ∈ row.toList, v.isNil = false) :
    (Table.mk row #[] room mark).IsSequence := by
  refine ⟨row.toList, lists_row room mark hsize hrow, fun k hk => ?_⟩
  have hslot (k : Value) : (Table.mk row #[] room mark).getSlot k = .nil :=
    getSlot_eq_nil fun e he => absurd he (Array.not_mem_empty e)
  unfold get at hk
  split at hk
  · rename_i n hn
    unfold getInt at hk
    split at hk
    · rename_i i hi
      obtain ⟨hni, hlt⟩ := rowPlace?_eq_some.mp hi
      exact ⟨i, hlt, by rw [hn, int_of_place hni]⟩
    · rw [hslot] at hk
      cases hk
  · cases hk
  · rw [hslot] at hk
    cases hk

namespace Mem

/-- Through some keys, one after the other, a value is reached from a value. -/
inductive Reaches (m : Mem) : Value → List Value → Value → Prop
  | refl (v : Value) : Reaches m v [] v
  | key {id : Nat} {k : Value} {ks : List Value} {w : Value} :
      ((m.table id).get k).isNil = false → Reaches m ((m.table id).get k) ks w →
      Reaches m (.table id) (k :: ks) w

/-- The table is read as a list. -/
def Listed (m : Mem) (id : Nat) : Prop :=
  ((m.table id).length != 0 || m.isList (m.table id)) = true

/-- A JSON value shows a value, whatever a table holds. -/
inductive Shows : Value → Json → Prop
  | nil : Shows .nil .null
  | bool (b : Bool) : Shows (.bool b) (.bool b)
  | int (n : Int64) : Shows (.int n) (.int n.toInt)
  | float (x : Float) : Shows (.float x) (.float x)
  | text (s : String) : Shows (.text s) (.str s)
  | array (id : Nat) (items : List Json) : Shows (.table id) (.arr items)
  | object (id : Nat) (fields : List (String × Json)) : Shows (.table id) (.obj fields)

/-- Whatever is reached from a value is shown at the same place of its JSON form, if it has one; it has
none if a table is reached that is neither a sequence nor a record. -/
structure Complete (m : Mem) (v : Value) : Prop where
  kept : ∀ j, m.json? v = some j → ∀ ks w, m.Reaches v ks w →
    ∃ part, j.parts? ks = some part ∧ Shows w part
  refused : ∀ ks id, m.Reaches v ks (.table id) → ¬(m.table id).IsSequence →
    ¬(m.table id).IsRecord → m.json? v = none

variable {m : Mem}

theorem Reaches.append {v : Value} {ks : List Value} {id : Nat} {k : Value}
    (h : m.Reaches v ks (.table id)) (hk : ((m.table id).get k).isNil = false) :
    m.Reaches v (ks ++ [k]) ((m.table id).get k) := by
  generalize hw : Value.table id = w at h
  induction h with
  | refl v =>
    subst hw
    exact .key hk (.refl _)
  | key hfirst _ ih => exact .key hfirst (ih hw)

end Mem

/-! ### Entries of a record -/

namespace Table

variable {t : Table} {k : Value}

/-- A key whose normal form equals a string is that string. -/
theorem eq_str_of_rawEq {s : ByteArray} (h : rawEq (.str s) (normalKey k) = true) : k = .str s := by
  cases k with
  | str s' => exact congrArg Value.str ((bytesEq_iff s s').mp h).symm
  | float x =>
    simp only [normalKey] at h
    split at h
    · cases h
    · cases h
  | nil | bool | int | table | func | thread | failure | file => cases h

/-- Where all entries are under strings, a key with a value is the string of an entry. -/
theorem entry_of_strings (hkeys : ∀ e ∈ t.entries, ∃ s, e.1 = .str s) (h : (t.get k).isNil = false) :
    ∃ s, k = .str s ∧ (.str s, t.get k) ∈ t.entries := by
  rw [← get_normalKey] at h
  obtain ⟨⟨key, v⟩, he, heq, hv⟩ := entry_of_get (normalKey_normalKey k) h
  rw [get_normalKey] at hv
  obtain ⟨s, hs⟩ := hkeys _ he
  dsimp only at hs heq hv
  subst hs hv
  exact ⟨s, eq_str_of_rawEq heq, he⟩

end Table

namespace Mem

variable {m : Mem}

/-! ### Bytes and texts -/

theorem utf8?_eq_some {s : ByteArray} {name : String} : utf8? s = some name ↔ s = bytes name := by
  constructor
  · intro h
    unfold utf8? at h
    cases hdecode : Text.Utf8.decode? s with
    | error f =>
      rw [hdecode] at h
      cases h
    | ok t =>
      rw [hdecode] at h
      cases h
      exact Text.Utf8.decode?_eq_ok.mp hdecode
  · rintro rfl
    exact utf8?_bytes name

/-! ### One table -/

variable {fuel : Nat} {path : List Nat} {id : Nat} {j : Json}

/-- What is made of each of some values. -/
theorem forall₂_of_mapM {α β : Type} {f : α → Option β} {xs : List α} {ys : List β}
    (h : xs.mapM f = some ys) : List.Forall₂ (fun x y => f x = some y) xs ys := by
  induction xs generalizing ys with
  | nil =>
    cases h
    exact .nil
  | cons x xs ih =>
    rw [List.mapM_cons] at h
    obtain ⟨y, hy, h⟩ := Option.bind_eq_some_iff.mp h
    obtain ⟨ys, hys, h⟩ := Option.bind_eq_some_iff.mp h
    cases h
    exact .cons hy (ih hys)

/-- The JSON form of a table: an array of its sequence or an object of its entries. -/
theorem jsonFrom_table_eq (h : m.jsonFrom fuel path (.table id) = some j) :
    ∃ fuel' path',
      (m.Listed id ∧ ∃ items, j = .arr items ∧
        List.Forall₂ (fun v i => m.jsonFrom fuel' path' v = some i) (sequence (m.table id)) items) ∨
      (¬m.Listed id ∧ ∃ fields, j = Json.ofFields fields ∧
        List.Forall₂ (fun e f => m.fieldFrom fuel' path' e = some f) (m.table id).entries fields) := by
  cases fuel with
  | zero => cases h
  | succ fuel =>
    have hpath : id ∉ path := by
      intro hmem
      rw [jsonFrom, if_pos (by simpa using hmem)] at h
      cases h
    rw [jsonFrom_table m fuel hpath] at h
    refine ⟨fuel, id :: path, ?_⟩
    split at h
    · rename_i hlisted
      obtain ⟨items, hitems, rfl⟩ := Option.map_eq_some_iff.mp h
      exact .inl ⟨hlisted, items, rfl, forall₂_of_mapM hitems⟩
    · rename_i hlisted
      obtain ⟨fields, hfields, rfl⟩ := Option.map_eq_some_iff.mp h
      exact .inr ⟨hlisted, fields, rfl, forall₂_of_mapM hfields⟩

/-- The JSON form of a value shows it. -/
theorem shows_of_jsonFrom {v : Value} (h : m.jsonFrom fuel path v = some j) : Shows v j := by
  cases v with
  | nil => cases fuel <;> cases h <;> exact .nil
  | bool b => cases fuel <;> cases h <;> exact .bool b
  | int n => cases fuel <;> cases h <;> exact .int n
  | float x => cases fuel <;> cases h <;> exact .float x
  | str s =>
    have hs : (utf8? s).map Json.str = some j := by
      cases fuel <;> exact h
    obtain ⟨name, hname, rfl⟩ := Option.map_eq_some_iff.mp hs
    rw [utf8?_eq_some.mp hname]
    exact .text name
  | table id =>
    obtain ⟨_, _, ⟨-, items, rfl, -⟩ | ⟨-, fields, rfl, -⟩⟩ := jsonFrom_table_eq h
    · exact .array id items
    · exact .object id _
  | func | thread | failure | file => cases fuel <;> cases h

/-- A field stands for an entry under the text of its name. -/
theorem key_of_field {e : Value × Value} {f : String × Json} (h : m.fieldFrom fuel path e = some f) :
    e.1 = .text f.1 ∧ m.jsonFrom fuel path e.2 = some f.2 := by
  unfold fieldFrom at h
  split at h
  · rename_i name v hname hv
    cases h
    refine ⟨?_, hv⟩
    cases hkey : e.1 with
    | str s =>
      rw [hkey] at hname
      rw [utf8?_eq_some.mp hname]
      rfl
    | _ =>
      rw [hkey] at hname
      cases hname
  · cases h

/-- The keys of a record are the texts that are the names of its fields. -/
theorem keys_of_fields {es : List (Value × Value)} {fields : List (String × Json)}
    (h : List.Forall₂ (fun e f => m.fieldFrom fuel path e = some f) es fields) :
    es.map (·.1) = fields.map (Value.text ·.1) := by
  induction h with
  | nil => rfl
  | @cons e f es fields hfield _ ih =>
    rw [List.map_cons, List.map_cons, ih, (key_of_field hfield).1]

/-! ### From a table to what it holds -/

/-- No table has two slots for one string. -/
def TextsOnce (m : Mem) : Prop := ∀ id, (m.table id).TextsOnce

/-- Every table that is reached from a value has fewer places than there are integers from 1 on. -/
def Bounded (m : Mem) (v : Value) : Prop :=
  ∀ ks id, m.Reaches v ks (.table id) →
    (m.table id).row.size + (m.table id).slots.size + 1 < 0x8000000000000000

theorem Bounded.key {k : Value} (h : m.Bounded (.table id))
    (hk : ((m.table id).get k).isNil = false) : m.Bounded ((m.table id).get k) :=
  fun _ id hreach => h _ id (.key hk hreach)

/-- An object that is made of the entries of a table shows what the table holds. -/
theorem part_of_record (htexts : (m.table id).TextsOnce) {fields : List (String × Json)}
    (h : List.Forall₂ (fun e f => m.fieldFrom fuel path e = some f) (m.table id).entries fields)
    (hk : ((m.table id).get k).isNil = false) :
    (∃ s, k = .str s) ∧ ∃ part, (Json.ofFields fields).part? k = some part ∧
      m.jsonFrom fuel path ((m.table id).get k) = some part := by
  have hkeys := keys_of_fields h
  obtain ⟨s, hs, hentry⟩ := Table.entry_of_strings (fun e he => by
    have hmem := List.mem_map_of_mem (f := (·.1)) he
    rw [hkeys] at hmem
    obtain ⟨f, -, hf⟩ := List.mem_map.mp hmem
    exact ⟨bytes f.1, hf.symm⟩) hk
  refine ⟨⟨s, hs⟩, ?_⟩
  obtain ⟨i, hi, heq⟩ := List.getElem_of_mem hentry
  obtain ⟨hlength, hall⟩ := List.forall₂_iff_get.mp h
  have hi' : i < fields.length := hlength ▸ hi
  obtain ⟨hname, hpart⟩ := key_of_field (hall i hi hi')
  rw [List.get_eq_getElem, List.get_eq_getElem, heq] at hname hpart
  dsimp only at hname hpart
  refine ⟨fields[i].2, ?_, hpart⟩
  have hnodup : (fields.map (·.1)).Nodup := by
    have hstrings := List.Nodup.sublist (Table.strings_entries _) htexts
    rw [hkeys, Table.strings_texts] at hstrings
    refine List.Nodup.of_map bytes ?_
    rw [List.map_map]
    exact hstrings
  have hfound := Json.lookup_ofFields rfl hnodup (List.getElem_mem hi')
  unfold Json.part?
  rw [hs, hname]
  dsimp only [normalKey, Json.ofFields, Value.text]
  rw [utf8?_bytes]
  exact hfound

/-- The keys that lead to an item of an array. -/
theorem place_of_part {items : List Json} {part : Json} (h : (Json.arr items).part? k = some part) :
    ∃ i < items.length, normalKey k = .int (Int64.ofNat (i + 1)) := by
  unfold Json.part? at h
  split at h
  · rename_i items' n harr hn
    cases harr
    split at h
    · rename_i hpos
      obtain ⟨hi, -⟩ := List.getElem?_eq_some_iff.mp h
      refine ⟨n.toInt.toNat - 1, hi, ?_⟩
      rw [hn]
      exact congrArg Value.int (int_of_place (by omega))
    · cases h
  · rename_i harr _
    cases harr
  · cases h

/-- An array that is made of a list shows the sequence of the list. -/
theorem part_of_list
    (hplaces : (m.table id).row.size + (m.table id).slots.size + 1 < 0x8000000000000000)
    {items : List Json}
    (h : List.Forall₂ (fun v i => m.jsonFrom fuel path v = some i) (sequence (m.table id)) items)
    {i : Nat} (hi : i < items.length) (hk : normalKey k = .int (Int64.ofNat (i + 1))) :
    (Json.arr items).part? k = some items[i] ∧
      m.jsonFrom fuel path ((m.table id).get k) = some items[i] := by
  have hlists := Table.lists_sequence hplaces
  obtain ⟨hlength, hall⟩ := List.forall₂_iff_get.mp h
  have hsize := hlists.size
  constructor
  · unfold Json.part?
    rw [hk]
    dsimp only
    rw [Int64.toInt_ofNat_of_lt (by omega), if_pos (by omega)]
    exact List.getElem?_eq_getElem hi
  · have hitem := hall i (hlength ▸ hi) hi
    rw [List.get_eq_getElem, List.get_eq_getElem, ← hlists.items i (hlength ▸ hi)] at hitem
    rw [Table.get, hk]
    exact hitem

/-- What a table holds is shown, as far as its JSON form has a part for it; only that of a list may lack
one. -/
theorem jsonFrom_part (htexts : m.TextsOnce) (hplaces : m.Bounded (.table id))
    (h : m.jsonFrom fuel path (.table id) = some j) (hk : ((m.table id).get k).isNil = false)
    (hlisted : m.Listed id → ∃ part, j.part? k = some part) :
    ∃ fuel' path' part, j.part? k = some part ∧
      m.jsonFrom fuel' path' ((m.table id).get k) = some part := by
  obtain ⟨fuel', path', ⟨hl, items, rfl, hitems⟩ | ⟨-, fields, rfl, hfields⟩⟩ := jsonFrom_table_eq h
  · obtain ⟨part, hpart⟩ := hlisted hl
    obtain ⟨i, hi, hplace⟩ := place_of_part hpart
    obtain ⟨hitem, hfrom⟩ := part_of_list (hplaces [] id (.refl _)) hitems hi hplace
    exact ⟨fuel', path', items[i], hitem, hfrom⟩
  · obtain ⟨-, part, hpart, hfrom⟩ := part_of_record (htexts id) hfields hk
    exact ⟨fuel', path', part, hpart, hfrom⟩

/-- A sequence is shown wholly. -/
theorem part_of_sequence (hplaces : m.Bounded (.table id))
    (h : m.jsonFrom fuel path (.table id) = some j) (hlisted : m.Listed id) (hsequence : (m.table id).IsSequence)
    (hk : ((m.table id).get k).isNil = false) : ∃ part, j.part? k = some part := by
  obtain ⟨fuel', path', ⟨-, items, rfl, hitems⟩ | ⟨hl, -⟩⟩ := jsonFrom_table_eq h
  · obtain ⟨vs, hlists, hkeys⟩ := hsequence
    obtain ⟨i, hi, hplace⟩ := hkeys k hk
    rw [← hlists.sequence, hitems.length_eq] at hi
    exact ⟨_, (part_of_list (hplaces [] id (.refl _)) hitems hi hplace).1⟩
  · exact absurd hlisted hl

/-- A list that is shown wholly is a sequence. -/
theorem sequence_of_parts
    (hplaces : (m.table id).row.size + (m.table id).slots.size + 1 < 0x8000000000000000)
    (h : m.jsonFrom fuel path (.table id) = some j) (hlisted : m.Listed id)
    (hparts : ∀ k, ((m.table id).get k).isNil = false → ∃ part, j.part? k = some part) :
    (m.table id).IsSequence := by
  obtain ⟨fuel', path', ⟨-, items, rfl, hitems⟩ | ⟨hl, -⟩⟩ := jsonFrom_table_eq h
  · refine ⟨_, Table.lists_sequence hplaces, fun k hk => ?_⟩
    obtain ⟨part, hpart⟩ := hparts k hk
    rw [hitems.length_eq]
    exact place_of_part hpart
  · exact absurd hlisted hl

/-- A table that is not read as a list is a record, if it has a JSON form. -/
theorem record_of_jsonFrom (htexts : m.TextsOnce) (h : m.jsonFrom fuel path (.table id) = some j)
    (hlisted : ¬m.Listed id) : (m.table id).IsRecord := by
  obtain ⟨fuel', path', ⟨hl, -⟩ | ⟨-, fields, -, hfields⟩⟩ := jsonFrom_table_eq h
  · exact absurd hl hlisted
  · exact fun k hk => (part_of_record (htexts id) hfields hk).1

/-! ### From a value to all that is reached -/

variable {v w : Value} {ks : List Value}

/-- Where every list that is reached is a sequence, there is a part for whatever is reached. -/
theorem parts_of_sequences (htexts : m.TextsOnce) (hplaces : m.Bounded v)
    (h : m.jsonFrom fuel path v = some j)
    (hlists : ∀ ks id, m.Reaches v ks (.table id) → m.Listed id → (m.table id).IsSequence)
    (hreach : m.Reaches v ks w) : ∃ part, j.parts? ks = some part := by
  induction hreach generalizing fuel path j with
  | refl => exact ⟨j, rfl⟩
  | key hk _ ih =>
    obtain ⟨fuel', path', part, hpart, hfrom⟩ := jsonFrom_part htexts hplaces h hk
      fun hlisted => part_of_sequence hplaces h hlisted (hlists [] _ (.refl _) hlisted) hk
    rw [Json.parts?, hpart]
    exact ih (hplaces.key hk) hfrom fun ks id hreach => hlists _ id (.key hk hreach)

/-- Where there is a part for whatever is reached, that part shows it. -/
theorem jsonFrom_reaches (htexts : m.TextsOnce) (hplaces : m.Bounded v)
    (h : m.jsonFrom fuel path v = some j)
    (hparts : ∀ ks w, m.Reaches v ks w → ∃ part, j.parts? ks = some part)
    (hreach : m.Reaches v ks w) :
    ∃ fuel' path' part, j.parts? ks = some part ∧ m.jsonFrom fuel' path' w = some part := by
  induction hreach generalizing fuel path j with
  | refl => exact ⟨fuel, path, j, rfl, h⟩
  | @key id k ks w hk _ ih =>
    obtain ⟨fuel', path', part, hpart, hfrom⟩ := jsonFrom_part htexts hplaces h hk fun _ => by
      obtain ⟨part, hpart⟩ := hparts [k] _ (.key hk (.refl _))
      obtain ⟨_, hpart, -⟩ := Option.bind_eq_some_iff.mp hpart
      exact ⟨_, hpart⟩
    rw [Json.parts?, hpart]
    refine ih (hplaces.key hk) hfrom fun ks w hreach => ?_
    have hrest := hparts (k :: ks) w (.key hk hreach)
    rwa [Json.parts?, hpart] at hrest

/-- **When nothing is lost.** Nothing that is reached from a value is lost, and values that could lose
something have no JSON form, just if the value has none or every table that is reached and read as a list
is a sequence. -/
theorem complete_iff (htexts : m.TextsOnce) {v : Value} (hplaces : m.Bounded v) :
    m.Complete v ↔ m.json? v = none ∨
      ∀ ks id, m.Reaches v ks (.table id) → m.Listed id → (m.table id).IsSequence := by
  have hform {j : Json} (hj : m.json? v = some j) :
      m.jsonFrom (m.tables.size + 1) [] v = some j := by
    unfold json? at hj
    split at hj
    · cases hj
    · exact hj
  constructor
  · intro hcomplete
    cases hj : m.json? v with
    | none => exact .inl rfl
    | some j =>
      refine .inr fun ks id hreach hlisted => ?_
      have hparts : ∀ ks w, m.Reaches v ks w → ∃ part, j.parts? ks = some part := by
        intro ks w hreach
        obtain ⟨part, hpart, -⟩ := hcomplete.kept j hj ks w hreach
        exact ⟨part, hpart⟩
      obtain ⟨fuel, path, table, htable, hfrom⟩ :=
        jsonFrom_reaches htexts hplaces (hform hj) hparts hreach
      refine sequence_of_parts (hplaces ks id hreach) hfrom hlisted fun k hk => ?_
      obtain ⟨part, hpart⟩ := hparts _ _ (hreach.append hk)
      rw [Json.parts?_append, htable, Option.bind_some, Json.parts?] at hpart
      obtain ⟨_, hpart, -⟩ := Option.bind_eq_some_iff.mp hpart
      exact ⟨_, hpart⟩
  · intro hlists
    constructor
    case kept =>
      intro j hj ks w hreach
      have hlists := hlists.resolve_left (by rw [hj]; exact nofun)
      obtain ⟨_, _, part, hpart, hfrom⟩ := jsonFrom_reaches htexts hplaces (hform hj)
        (fun _ _ => parts_of_sequences htexts hplaces (hform hj) hlists) hreach
      exact ⟨part, hpart, shows_of_jsonFrom hfrom⟩
    case refused =>
      intro ks id hreach hsequence hrecord
      by_contra hsome
      obtain ⟨j, hj⟩ := Option.ne_none_iff_exists'.mp hsome
      have hlists := hlists.resolve_left hsome
      obtain ⟨_, _, table, -, hfrom⟩ := jsonFrom_reaches htexts hplaces (hform hj)
        (fun _ _ => parts_of_sequences htexts hplaces (hform hj) hlists) hreach
      by_cases hlisted : m.Listed id
      · exact hsequence (hlists ks id hreach hlisted)
      · exact hrecord (record_of_jsonFrom htexts hfrom hlisted)

end Mem

end Lua

end LuaSession
