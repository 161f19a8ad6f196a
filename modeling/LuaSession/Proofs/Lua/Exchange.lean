import LuaSession.Lua.Exchange
import LuaSession.Proofs.Json.Canonical
import LuaSession.Proofs.Lua.Contents
import LuaSession.Proofs.Lua.Sequences
import LuaSession.Proofs.Text.Utf8

/-!
# Values made from JSON

A JSON value becomes tables that name only tables made before them. As long as nothing changes these
tables, the value that names the last of them has the JSON value as its JSON form: an array is marked as
a list, so it is told from an object even when it is empty, and an object has texts for keys whatever
they look like.

* `Json.Plain`: the values that programs can hold as they are, if they are canonical.
* `Mem.Spells`: what it is for tables to be made from a value.
* `Mem.ofJson_spells`: the tables are made so, and those that were there stay.
* `Mem.Spells.json?_eq`: tables that are made so are read back as the value.
-/

namespace LuaSession

mutual

/-- No null stands in the value, and every number is an integer of 64 bits with a sign. -/
def Json.Plain : Json → Prop
  | .null | .float _ => False
  | .bool _ | .str _ => True
  | .int n => -0x8000000000000000 ≤ n ∧ n < 0x8000000000000000
  | .arr items => Json.PlainItems items
  | .obj fields => Json.PlainFields fields

/-- The items of an array are plain. -/
def Json.PlainItems : List Json → Prop
  | [] => True
  | v :: vs => v.Plain ∧ Json.PlainItems vs

/-- The values of fields are plain. -/
def Json.PlainFields : List (String × Json) → Prop
  | [] => True
  | (_, v) :: fs => v.Plain ∧ Json.PlainFields fs

end

namespace Lua

/-! ### Lists -/

namespace Table

variable {vs : List Value} {mark : Option Nat}

/-- The value of a place in a list. -/
theorem getInt_list {i : Nat} (h : i < vs.length) (hsize : vs.length < 0x8000000000000000) :
    ({ ofList vs with metatable := mark } : Table).getInt (Int64.ofNat (i + 1)) = vs[i] := by
  have hplace : rowPlace? (ofList vs).row.size (Int64.ofNat (i + 1)) = some i := by
    rw [rowPlace?_eq_some, Int64.toInt_ofNat_of_lt (by omega)]
    exact ⟨by omega, by simpa [ofList] using h⟩
  rw [getInt, hplace]
  simp [ofList, h]

/-- A list without nil is its own sequence. -/
theorem sequence_list (hsize : vs.length < 0x8000000000000000) (hvs : ∀ v ∈ vs, v.isNil = false) :
    Mem.sequence { ofList vs with metatable := mark } = vs := by
  have hread := sequenceFrom_eq (t := { ofList vs with metatable := mark })
    (fun i hi => getInt_list hi hsize) hvs (Nat.zero_le _) (Nat.le_add_left vs.length 0)
    fun h => absurd h (by omega)
  rw [List.drop_zero] at hread
  simpa [Mem.sequence, ofList] using hread

/-- A table without slots lists its row, if there is no nil in it. -/
theorem lists_row {row : Array Value} (room : Nat) (mark : Option Nat)
    (hsize : row.size + 1 < 0x8000000000000000) (hrow : ∀ v ∈ row.toList, v.isNil = false) :
    (Table.mk row #[] room mark).Lists row.toList := by
  refine ⟨hsize, fun i hi => ?_, hrow, ?_⟩
  · have hplace : rowPlace? row.size (Int64.ofNat (i + 1)) = some i := by
      rw [rowPlace?_eq_some, Int64.toInt_ofNat_of_lt (by rw [Array.length_toList] at hi; omega)]
      exact ⟨by omega, hi⟩
    rw [getInt, hplace]
    exact (Array.getD_eq_getD_getElem? ..).trans (by rw [Array.getElem?_eq_getElem hi]; rfl)
  · have hplace : rowPlace? row.size (Int64.ofNat (row.size + 1)) = none := by
      cases h : rowPlace? row.size (Int64.ofNat (row.size + 1)) with
      | none => rfl
      | some j =>
        obtain ⟨hj, hlt⟩ := rowPlace?_eq_some.mp h
        rw [Int64.toInt_ofNat_of_lt (by omega)] at hj
        omega
    rw [getInt, Array.length_toList, hplace]
    exact getSlot_eq_nil fun e he => absurd he (Array.not_mem_empty e)

/-- There is nothing behind the items of a list. -/
theorem lists_list (hsize : vs.length + 1 < 0x8000000000000000) (hvs : ∀ v ∈ vs, v.isNil = false) :
    (ofList vs).Lists vs :=
  lists_row 0 none hsize hvs

/-- The entries of a list are its items under their places. -/
theorem entries_list {e : Value × Value}
    (h : e ∈ ({ ofList vs with metatable := mark } : Table).entries) :
    (∃ n, e.1 = .int n) ∧ e.2 ∈ vs := by
  simp only [entries, ofList, List.filter_nil, List.append_nil] at h
  obtain ⟨⟨v, i⟩, hmem, he⟩ := List.mem_filterMap.mp h
  split at he
  · cases he
  · cases he
    obtain ⟨-, hv⟩ := List.mem_zipIdx' hmem
    exact ⟨⟨_, rfl⟩, hv ▸ List.getElem_mem _⟩

/-! ### Records -/

variable {es : List (Value × Value)}

/-- The fields have texts for keys, each once, and values other than nil. -/
structure Fields (es : List (Value × Value)) : Prop where
  texts : ∀ e ∈ es, ∃ k, e.1 = .text k
  keys : (es.map (·.1)).Nodup
  values : ∀ e ∈ es, e.2.isNil = false

theorem le_slotRoom (n : Nat) : n ≤ slotRoom n := by
  unfold slotRoom
  split
  · simp_all
  · split
    · simp_all
    · have := Nat.lt_log2_self (n := n - 1)
      simp only [Nat.pow_eq]
      omega

/-- A text that is no key yet gets a slot. -/
theorem set_new {t : Table} {k : String} {v : Value} (hroom : t.slots.size < t.room)
    (hkeys : ∀ e ∈ t.slots, ∃ k', e.1 = .text k') (hnew : .text k ∉ t.slots.toList.map (·.1))
    (hv : v.isNil = false) : t.set (.text k) v = t.addSlot (.text k) v := by
  have hslot : t.slot? (.text k) = none := by
    rcases h : t.slot? (.text k) with _ | i
    · rfl
    · obtain ⟨hi, heq, -⟩ := slot?_eq_some h
      obtain ⟨k', hk'⟩ := hkeys _ (Array.getElem_mem hi)
      rw [hk'] at heq
      have hsame : Value.text k' = .text k := congrArg Value.str ((bytesEq_iff _ _).mp heq)
      refine absurd (List.mem_map.mpr ⟨t.slots[i], ?_, hk'.trans hsame⟩) hnew
      exact Array.getElem_mem_toList hi
  change t.putSlot (.text k) v = _
  rw [putSlot, hslot]
  simp [hv, hroom]

/-- Fields are set one after the other as long as there is room. -/
theorem foldl_fields {t : Table} (h : Fields (t.slots.toList ++ es))
    (hroom : t.slots.size + es.length ≤ t.room) :
    es.foldl (fun t f => t.set f.1 f.2) t = { t with slots := t.slots ++ es.toArray } := by
  induction es generalizing t with
  | nil => simp
  | cons e es ih =>
    obtain ⟨k, hk⟩ := h.texts e (by simp)
    have hset : t.set e.1 e.2 = t.addSlot e.1 e.2 := by
      rw [hk]
      refine set_new ?_ (fun e' he' => h.texts e' ?_) ?_ (h.values e (by simp))
      · rw [List.length_cons] at hroom
        omega
      · exact List.mem_append_left _ (Array.mem_toList_iff.mpr he')
      · have hkeys := h.keys
        rw [List.map_append, List.nodup_append] at hkeys
        intro hmem
        exact hkeys.2.2 _ hmem _ (by simp [hk]) rfl
    have hfields : Fields ((t.addSlot e.1 e.2).slots.toList ++ es) := by
      have hsplit : (t.addSlot e.1 e.2).slots.toList ++ es = t.slots.toList ++ e :: es := by
        simp [addSlot]
      rw [hsplit]
      exact h
    have hleft : (t.addSlot e.1 e.2).slots.size + es.length ≤ (t.addSlot e.1 e.2).room := by
      rw [List.length_cons] at hroom
      simp only [addSlot, Array.size_push]
      omega
    rw [List.foldl_cons, hset, ih hfields hleft]
    simp [addSlot]

/-- A record has its fields in its slots, in their order. -/
theorem ofFields_eq (h : Fields es) :
    ofFields es = { slots := es.toArray, room := slotRoom es.length } := by
  have hfields : Fields ((sized 0 es.length).slots.toList ++ es) := by simpa [sized] using h
  have hroom : (sized 0 es.length).slots.size + es.length ≤ (sized 0 es.length).room := by
    simpa [sized] using le_slotRoom es.length
  rw [ofFields, foldl_fields hfields hroom]
  simp [sized]

theorem entries_ofFields (h : Fields es) : (ofFields es).entries = es := by
  rw [ofFields_eq h]
  simp only [entries, List.zipIdx_nil, List.filterMap_nil, List.nil_append,
    List.filter_eq_self, Bool.not_eq_true']
  exact h.values

/-- No integer is a key of a record. -/
theorem length_ofFields (h : Fields es) : (ofFields es).length = 0 := by
  have hnone : (ofFields es).getInt 1 = .nil := by
    rw [ofFields_eq h]
    change getSlot _ _ = _
    refine getSlot_eq_nil fun e he => ?_
    obtain ⟨k, hk⟩ := h.texts e (by simpa using he)
    rw [hk]
    rfl
  have hrow : (ofFields es).row = #[] := by rw [ofFields_eq h]
  simp [length, hrow, hnone, Value.isNil]

end Table

/-! ### Numbers that are not finite -/

namespace Mem

variable {m m' : Mem}

/-- None is reached where none is among some values that hold only values of their kind. -/
theorem reachesNonFinite_eq_false {P : Value → Prop}
    (hfinite : ∀ x, P (.float x) → Number.isFinite x = true)
    (hcontents : ∀ id, P (.table id) → ∀ v ∈ m.contents id, P v) (seen : Array Bool)
    {work : List Value} (h : ∀ v ∈ work, P v) : m.reachesNonFinite seen work = false := by
  fun_induction reachesNonFinite m seen work with
  | case1 => rfl
  | case2 seen x rest ih =>
    obtain ⟨hx, hrest⟩ := List.forall_mem_cons.mp h
    rw [hfinite x hx, ih hrest]
    rfl
  | case3 seen id rest hid hseen ih =>
    obtain ⟨hinside, hrest⟩ := List.forall_mem_cons.mp h
    exact ih fun v hv => (List.mem_append.mp hv).elim (hcontents id hinside v) (hrest v)
  | case4 seen id rest hid hseen ih => exact ih (List.forall_mem_cons.mp h).2
  | case5 seen id rest hid ih => exact ih (List.forall_mem_cons.mp h).2
  | case6 seen v rest hfloat htable ih => exact ih (List.forall_mem_cons.mp h).2

/-! ### Tables that spell a value -/

mutual

/-- The value of a program is made from this JSON value: tables stand between two places, and name only
such as were made before them. -/
inductive Spells (m : Mem) (low : Nat) : (high : Nat) → Json → Value → Prop
  | bool {high : Nat} (b : Bool) : Spells m low high (.bool b) (.bool b)
  | int {high : Nat} {n : Int} : -0x8000000000000000 ≤ n → n < 0x8000000000000000 →
      Spells m low high (.int n) (.int (Int64.ofInt n))
  | str {high : Nat} (s : String) : Spells m low high (.str s) (.text s)
  | arr {high id : Nat} {items : List Json} {vs : List Value} : low ≤ id → id < high →
      vs.length < 0x8000000000000000 →
      m.tables[id]? = some { Table.ofList vs with metatable := m.listMeta } →
      SpellsItems m low id items vs → Spells m low high (.arr items) (.table id)
  | obj {high id : Nat} {fields : List (String × Json)} {es : List (Value × Value)} : low ≤ id →
      id < high → fields.Pairwise (fun f g => f.1 < g.1) →
      m.tables[id]? = some (Table.ofFields es) →
      SpellsFields m low id fields es → Spells m low high (.obj fields) (.table id)

/-- The values are made from these JSON values. -/
inductive SpellsItems (m : Mem) (low : Nat) : (high : Nat) → List Json → List Value → Prop
  | nil {high : Nat} : SpellsItems m low high [] []
  | cons {high : Nat} {j : Json} {v : Value} {js : List Json} {vs : List Value} :
      Spells m low high j v → SpellsItems m low high js vs → SpellsItems m low high (j :: js) (v :: vs)

/-- The fields are made from these fields. -/
inductive SpellsFields (m : Mem) (low : Nat) :
    (high : Nat) → List (String × Json) → List (Value × Value) → Prop
  | nil {high : Nat} : SpellsFields m low high [] []
  | cons {high : Nat} {k : String} {j : Json} {v : Value} {fs : List (String × Json)}
      {es : List (Value × Value)} : Spells m low high j v → SpellsFields m low high fs es →
      SpellsFields m low high ((k, j) :: fs) ((.text k, v) :: es)

end

/-- The tables between two places are the same, and so is the mark of lists. -/
structure SameBetween (low high : Nat) (m m' : Mem) : Prop where
  mark : m'.listMeta = m.listMeta
  tables : ∀ id, low ≤ id → id < high → m'.tables[id]? = m.tables[id]?

theorem SameBetween.mono {low low' high high' : Nat} (h : m.SameBetween low high m')
    (hlow : low ≤ low') (hhigh : high' ≤ high) : m.SameBetween low' high' m' :=
  ⟨h.mark, fun id hid hid' => h.tables id (by omega) (by omega)⟩

mutual

/-- As long as its tables stay, what they spell does. -/
theorem Spells.stays {low low' high high' : Nat} {j : Json} {v : Value} (h : m.Spells low high j v)
    (hlow : low' ≤ low) (hhigh : high ≤ high') (hsame : m.SameBetween low high m') :
    m'.Spells low' high' j v := by
  cases h with
  | bool b => exact .bool b
  | int hlo hhi => exact .int hlo hhi
  | str s => exact .str s
  | arr hid hid' hlength htable hitems =>
    refine .arr (by omega) (by omega) hlength ?_
      (hitems.stays hlow (Nat.le_refl _) (hsame.mono (Nat.le_refl _) (by omega)))
    rw [hsame.tables _ hid hid', htable, hsame.mark]
  | obj hid hid' hsorted htable hfields =>
    refine .obj (by omega) (by omega) hsorted ?_
      (hfields.stays hlow (Nat.le_refl _) (hsame.mono (Nat.le_refl _) (by omega)))
    rw [hsame.tables _ hid hid', htable]

theorem SpellsItems.stays {low low' high high' : Nat} {js : List Json} {vs : List Value}
    (h : m.SpellsItems low high js vs) (hlow : low' ≤ low) (hhigh : high ≤ high')
    (hsame : m.SameBetween low high m') : m'.SpellsItems low' high' js vs := by
  cases h with
  | nil => exact .nil
  | cons hv hvs => exact .cons (hv.stays hlow hhigh hsame) (hvs.stays hlow hhigh hsame)

theorem SpellsFields.stays {low low' high high' : Nat} {fs : List (String × Json)}
    {es : List (Value × Value)} (h : m.SpellsFields low high fs es) (hlow : low' ≤ low)
    (hhigh : high ≤ high') (hsame : m.SameBetween low high m') :
    m'.SpellsFields low' high' fs es := by
  cases h with
  | nil => exact .nil
  | cons hv hes => exact .cons (hv.stays hlow hhigh hsame) (hes.stays hlow hhigh hsame)

end

/-! ### Making tables -/

/-- Some tables were added. -/
def Adds (m m' : Mem) : Prop := ∃ ts, m' = { m with tables := m.tables ++ ts }

theorem Adds.refl (m : Mem) : m.Adds m := ⟨#[], by rw [Array.append_empty]⟩

theorem Adds.trans {m'' : Mem} (h : m.Adds m') (h' : m'.Adds m'') : m.Adds m'' := by
  obtain ⟨ts, rfl⟩ := h
  obtain ⟨us, rfl⟩ := h'
  exact ⟨ts ++ us, by rw [Array.append_assoc]⟩

theorem adds_newTable (m : Mem) (t : Table) : m.Adds (m.newTable t).2 :=
  ⟨#[t], by rw [newTable, Array.push_eq_append]⟩

theorem Adds.listMeta (h : m.Adds m') : m'.listMeta = m.listMeta := by
  obtain ⟨ts, rfl⟩ := h
  rfl

theorem Adds.size_le (h : m.Adds m') : m.tables.size ≤ m'.tables.size := by
  obtain ⟨ts, rfl⟩ := h
  simp

/-- Those that were there stay. -/
theorem Adds.same (h : m.Adds m') (low : Nat) : m.SameBetween low m.tables.size m' := by
  refine ⟨h.listMeta, fun id _ hid => ?_⟩
  obtain ⟨ts, rfl⟩ := h
  exact Array.getElem?_append_left hid

theorem SpellsItems.length_eq {low high : Nat} {js : List Json} {vs : List Value}
    (h : m.SpellsItems low high js vs) : vs.length = js.length := by
  induction js generalizing vs with
  | nil =>
    cases h
    rfl
  | cons j js ih =>
    cases h with
    | cons _ hvs => rw [List.length_cons, List.length_cons, ih hvs]

mutual

/-- The tables of a value are added to those that there are. -/
theorem ofJson_spells (m : Mem) (j : Json) (hc : j.Canonical) (h : j.Plain) :
    m.Adds (m.ofJson j).2 ∧
      (m.ofJson j).2.Spells m.tables.size (m.ofJson j).2.tables.size j (m.ofJson j).1 := by
  cases j with
  | null => exact h.elim
  | bool b => exact ⟨.refl m, .bool b⟩
  | int n =>
    rw [ofJson, if_pos h.2]
    exact ⟨.refl m, .int h.1 h.2⟩
  | float x => exact h.elim
  | str s => exact ⟨.refl m, .str s⟩
  | arr items =>
    obtain ⟨hadds, hitems⟩ := ofJsonItems_spells m items hc.2 h
    rcases hmade : m.ofJsonItems items with ⟨vs, m₁⟩
    rw [hmade] at hadds hitems
    rw [ofJson, hmade]
    have hnew := adds_newTable m₁ { Table.ofList vs with metatable := m₁.listMeta }
    refine ⟨hadds.trans hnew, .arr hadds.size_le ?_ ?_ ?_
      (hitems.stays (Nat.le_refl _) (Nat.le_refl _) (hnew.same _))⟩
    · simp [newTable]
    · rw [hitems.length_eq]
      exact hc.1
    · exact Array.getElem?_push_size
  | obj fields =>
    obtain ⟨hadds, hfields⟩ := ofJsonFields_spells m fields hc.2 h
    rcases hmade : m.ofJsonFields fields with ⟨es, m₁⟩
    rw [hmade] at hadds hfields
    rw [ofJson, hmade]
    have hnew := adds_newTable m₁ (Table.ofFields es)
    refine ⟨hadds.trans hnew, .obj hadds.size_le ?_ hc.1 ?_
      (hfields.stays (Nat.le_refl _) (Nat.le_refl _) (hnew.same _))⟩
    · simp [newTable]
    · exact Array.getElem?_push_size

theorem ofJsonItems_spells (m : Mem) (js : List Json) (hc : Json.CanonicalItems js)
    (h : Json.PlainItems js) :
    m.Adds (m.ofJsonItems js).2 ∧ (m.ofJsonItems js).2.SpellsItems m.tables.size
      (m.ofJsonItems js).2.tables.size js (m.ofJsonItems js).1 := by
  cases js with
  | nil => exact ⟨.refl m, .nil⟩
  | cons j js =>
    obtain ⟨hadds, hj⟩ := ofJson_spells m j hc.1 h.1
    obtain ⟨hadds', hjs⟩ := ofJsonItems_spells (m.ofJson j).2 js hc.2 h.2
    exact ⟨hadds.trans hadds', .cons (hj.stays (Nat.le_refl _) hadds'.size_le (hadds'.same _))
      (hjs.stays hadds.size_le (Nat.le_refl _) ⟨rfl, fun _ _ _ => rfl⟩)⟩

theorem ofJsonFields_spells (m : Mem) (fs : List (String × Json)) (hc : Json.CanonicalFields fs)
    (h : Json.PlainFields fs) :
    m.Adds (m.ofJsonFields fs).2 ∧ (m.ofJsonFields fs).2.SpellsFields m.tables.size
      (m.ofJsonFields fs).2.tables.size fs (m.ofJsonFields fs).1 := by
  cases fs with
  | nil => exact ⟨.refl m, .nil⟩
  | cons f fs =>
    obtain ⟨k, j⟩ := f
    obtain ⟨hadds, hj⟩ := ofJson_spells m j hc.1 h.1
    obtain ⟨hadds', hfs⟩ := ofJsonFields_spells (m.ofJson j).2 fs hc.2 h.2
    exact ⟨hadds.trans hadds', .cons (hj.stays (Nat.le_refl _) hadds'.size_le (hadds'.same _))
      (hfs.stays hadds.size_le (Nat.le_refl _) ⟨rfl, fun _ _ _ => rfl⟩)⟩

end

/-! ### Reading them back -/

variable {low high : Nat} {j : Json} {v : Value}

theorem Spells.isNil (h : m.Spells low high j v) : v.isNil = false := by
  cases h with
  | bool | int | str | arr | obj => rfl

theorem SpellsItems.of_mem {js : List Json} {vs : List Value} (h : m.SpellsItems low high js vs) :
    ∀ v ∈ vs, ∃ j, m.Spells low high j v := by
  induction js generalizing vs with
  | nil =>
    cases h
    exact List.forall_mem_nil _
  | cons j js ih =>
    cases h with
    | cons hv hvs => exact List.forall_mem_cons.mpr ⟨⟨j, hv⟩, ih hvs⟩

theorem SpellsFields.of_mem {fs : List (String × Json)} {es : List (Value × Value)}
    (h : m.SpellsFields low high fs es) :
    ∀ e ∈ es, (∃ k, e.1 = .text k) ∧ ∃ j, m.Spells low high j e.2 := by
  induction fs generalizing es with
  | nil =>
    cases h
    exact List.forall_mem_nil _
  | cons f fs ih =>
    cases h with
    | @cons _ k j _ _ _ hv hes => exact List.forall_mem_cons.mpr ⟨⟨⟨k, rfl⟩, j, hv⟩, ih hes⟩

/-- The keys are the texts of the keys. -/
theorem SpellsFields.keys {fs : List (String × Json)} {es : List (Value × Value)}
    (h : m.SpellsFields low high fs es) : es.map (·.1) = fs.map (Value.text ·.1) := by
  induction fs generalizing es with
  | nil =>
    cases h
    rfl
  | cons f fs ih =>
    cases h with
    | cons _ hes => rw [List.map_cons, List.map_cons, ih hes]

/-- Keys that are in order are different. -/
theorem SpellsFields.fields {fs : List (String × Json)} {es : List (Value × Value)}
    (h : m.SpellsFields low high fs es) (hsorted : fs.Pairwise fun f g => f.1 < g.1) :
    Table.Fields es where
  texts e he := (h.of_mem e he).1
  keys := by
    rw [h.keys, List.Nodup, List.pairwise_map]
    refine hsorted.imp fun hlt heq => ?_
    rw [Value.text_inj.mp heq] at hlt
    exact String.lt_irrefl _ hlt
  values e he := by
    obtain ⟨-, j, hv⟩ := h.of_mem e he
    exact hv.isNil

theorem table_eq {id : Nat} {t : Table} (h : m.tables[id]? = some t) : m.table id = t := by
  rw [table, Array.getD_eq_getD_getElem?, h, Option.getD_some]

/-- The JSON form of a field. -/
def fieldFrom (m : Mem) (fuel : Nat) (path : List Nat) (e : Value × Value) : Option (String × Json) :=
  match fieldKey? e.1, m.jsonFrom fuel path e.2 with
  | some key, some v => some (key, v)
  | _, _ => none

/-- A table that is not inside itself is an array or an object. -/
theorem jsonFrom_table (m : Mem) (fuel : Nat) {path : List Nat} {id : Nat} (h : id ∉ path) :
    m.jsonFrom (fuel + 1) path (.table id) =
      if (m.table id).length != 0 || m.isList (m.table id) then
        ((sequence (m.table id)).mapM (m.jsonFrom fuel (id :: path))).map .arr
      else ((m.table id).entries.mapM (m.fieldFrom fuel (id :: path))).map Json.ofFields := by
  have hpath : ¬path.contains id = true := by simpa using h
  rw [jsonFrom, if_neg hpath]
  rfl

theorem utf8?_bytes (s : String) : utf8? (bytes s) = some s := by
  rw [utf8?, bytes, Text.Utf8.decode?_toUTF8]
  rfl

mutual

/-- The tables on the way to a value are made after those of the value. -/
theorem Spells.jsonFrom_eq {low high : Nat} {j : Json} {v : Value} (h : m.Spells low high j v)
    (hmark : m.listMeta.isSome = true) {fuel : Nat} {path : List Nat} (hfuel : high ≤ fuel)
    (hpath : ∀ id ∈ path, high ≤ id) : m.jsonFrom fuel path v = some j := by
  cases h with
  | bool b => cases fuel <;> rfl
  | @int _ n hlo hhi =>
    have hn : (Int64.ofInt n).toInt = n := Int64.toInt_ofInt_of_le (by simpa using hlo) (by omega)
    cases fuel <;> exact congrArg (some ∘ Json.int) hn
  | str s =>
    cases fuel <;> exact congrArg (Option.map Json.str) (utf8?_bytes s)
  | @arr _ id items vs hlow hid hlength htable hitems =>
    obtain ⟨fuel, rfl⟩ : ∃ n, fuel = n + 1 := ⟨fuel - 1, by omega⟩
    have hnew : id ∉ path := fun hmem => absurd (hpath id hmem) (by omega)
    have hinside : ∀ p ∈ id :: path, id ≤ p :=
      List.forall_mem_cons.mpr ⟨Nat.le_refl _, fun p hp => Nat.le_trans (by omega) (hpath p hp)⟩
    have hlist : m.isList { Table.ofList vs with metatable := m.listMeta } = true := by
      simp [isList, hmark]
    have hnil : ∀ v ∈ vs, v.isNil = false := fun v hv =>
      let ⟨_, h⟩ := hitems.of_mem v hv
      h.isNil
    rw [jsonFrom_table m fuel hnew, table_eq htable, hlist, Bool.or_true, if_pos rfl,
      Table.sequence_list hlength hnil, hitems.mapM_eq hmark (by omega) hinside]
    rfl
  | @obj _ id fields es hlow hid hsorted htable hfields =>
    obtain ⟨fuel, rfl⟩ : ∃ n, fuel = n + 1 := ⟨fuel - 1, by omega⟩
    have hnew : id ∉ path := fun hmem => absurd (hpath id hmem) (by omega)
    have hinside : ∀ p ∈ id :: path, id ≤ p :=
      List.forall_mem_cons.mpr ⟨Nat.le_refl _, fun p hp => Nat.le_trans (by omega) (hpath p hp)⟩
    have hes := hfields.fields hsorted
    have hplain : m.isList (Table.ofFields es) = false := by
      rw [isList, Table.ofFields_eq hes]
      rfl
    rw [jsonFrom_table m fuel hnew, table_eq htable, Table.length_ofFields hes, hplain,
      if_neg (by simp), Table.entries_ofFields hes, hfields.mapM_eq hmark (by omega) hinside,
      Option.map_some, Json.ofFields_sorted hsorted]

theorem SpellsItems.mapM_eq {low high : Nat} {js : List Json} {vs : List Value}
    (h : m.SpellsItems low high js vs) (hmark : m.listMeta.isSome = true) {fuel : Nat}
    {path : List Nat} (hfuel : high ≤ fuel) (hpath : ∀ id ∈ path, high ≤ id) :
    vs.mapM (m.jsonFrom fuel path) = some js := by
  cases h with
  | nil => rfl
  | cons hv hvs =>
    rw [List.mapM_cons, hv.jsonFrom_eq hmark hfuel hpath, hvs.mapM_eq hmark hfuel hpath]
    rfl

theorem SpellsFields.mapM_eq {low high : Nat} {fs : List (String × Json)}
    {es : List (Value × Value)} (h : m.SpellsFields low high fs es)
    (hmark : m.listMeta.isSome = true) {fuel : Nat} {path : List Nat} (hfuel : high ≤ fuel)
    (hpath : ∀ id ∈ path, high ≤ id) :
    es.mapM (m.fieldFrom fuel path) = some fs := by
  cases h with
  | nil => rfl
  | @cons _ k j v fs es hv hes =>
    have hfield : m.fieldFrom fuel path (.text k, v) = some (k, j) := by
      have hkey : fieldKey? (.text k) = some k := utf8?_bytes k
      rw [fieldFrom, hkey, hv.jsonFrom_eq hmark hfuel hpath]
    rw [List.mapM_cons, hfield, hes.mapM_eq hmark hfuel hpath]
    rfl

end

/-- What is made from some JSON value. -/
def Spelled (m : Mem) (low : Nat) (v : Value) : Prop := ∃ high j, m.Spells low high j v

theorem spelled_int (n : Int64) : m.Spelled low (.int n) := by
  have h : m.Spells low 0 (.int n.toInt) (.int (Int64.ofInt n.toInt)) :=
    .int n.le_toInt n.toInt_lt
  rw [Int64.ofInt_toInt] at h
  exact ⟨0, _, h⟩

/-- The keys and values of such a table are such values, so no double is reached. -/
theorem Spells.hasNonFinite_eq (h : m.Spells low high j v) : m.hasNonFinite v = false := by
  refine reachesNonFinite_eq_false (P := m.Spelled low) ?_ ?_ _ ?_
  · rintro x ⟨high, j, hx⟩
    cases hx
  · rintro id ⟨high, j, hid⟩ v hv
    obtain ⟨e, he, hmem⟩ := List.mem_flatMap.mp hv
    have hentry : m.Spelled low e.1 ∧ m.Spelled low e.2 := by
      cases hid with
      | arr _ _ _ htable hitems =>
        rw [table_eq htable] at he
        obtain ⟨⟨n, hn⟩, hitem⟩ := Table.entries_list he
        exact ⟨hn ▸ spelled_int n, _, hitems.of_mem _ hitem⟩
      | obj _ _ hsorted htable hfields =>
        rw [table_eq htable, Table.entries_ofFields (hfields.fields hsorted)] at he
        obtain ⟨⟨k, hk⟩, hvalue⟩ := hfields.of_mem e he
        exact ⟨hk ▸ ⟨0, _, .str k⟩, _, hvalue⟩
    rcases (List.mem_cons.trans (or_congr_right List.mem_singleton)).mp hmem with rfl | rfl
    · exact hentry.1
    · exact hentry.2
  · simpa using ⟨_, _, h⟩

/-- The tables of a value are there. -/
theorem Spells.within (h : m.Spells low high j v) : m.Spells low m.tables.size j v := by
  cases h with
  | bool b => exact .bool b
  | int hlo hhi => exact .int hlo hhi
  | str s => exact .str s
  | arr hid _ hlength htable hitems =>
    obtain ⟨hsize, -⟩ := Array.getElem?_eq_some_iff.mp htable
    exact .arr hid hsize hlength htable hitems
  | obj hid _ hsorted htable hfields =>
    obtain ⟨hsize, -⟩ := Array.getElem?_eq_some_iff.mp htable
    exact .obj hid hsize hsorted htable hfields

/-- **What was made from a value is read back as the value.** -/
theorem Spells.json?_eq (h : m.Spells low high j v) (hmark : m.listMeta.isSome = true) :
    m.json? v = some j := by
  rw [json?, h.hasNonFinite_eq, if_neg Bool.false_ne_true,
    h.within.jsonFrom_eq hmark (Nat.le_succ _) (List.forall_mem_nil _)]

end Mem

end Lua

end LuaSession
