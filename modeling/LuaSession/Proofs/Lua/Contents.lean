import LuaSession.Proofs.Lua.Table

/-!
# What tables hold

A sound table holds one value for a key, wherever it keeps it. Setting a value changes what the table
holds for that key and for no other one, even if the table is laid out anew for it.

* `Table.Sound.get_eq`: what a table holds, by its entries.
* `Table.Sound.get_set`: what it holds after a value was set.
-/

namespace LuaSession.Lua

/-! ### Keys that are equal -/

section Floats

open Float.Model

/-- Doubles that are equal are the same number, or both are zero. -/
theorem unpacked_eq_of_beq {u v : UnpackedFloat} (h : u.beq v = true) :
    u = v ∨ ∃ s t, u = .zero s ∧ v = .zero t := by
  have hcompare : u.compare v = some .eq := eq_of_beq h
  cases u with
  | notANumber => cases hcompare
  | infinity s =>
    cases v with
    | infinity t => cases s <;> cases t <;> first | exact .inl rfl | cases hcompare
    | _ => cases s <;> cases hcompare
  | zero s =>
    cases v with
    | zero t => exact .inr ⟨s, t, rfl, rfl⟩
    | infinity t => cases t <;> cases hcompare
    | finite t m e hm => cases t <;> cases hcompare
    | notANumber => cases hcompare
  | finite s m e hm =>
    cases v with
    | finite t m' e' hm' =>
      have hsame (h : (compare e e').then (compare m m') = .eq) : e = e' ∧ m = m' := by
        rwa [Ordering.then_eq_eq, Std.LawfulEqOrd.compare_eq_iff_eq,
          Std.LawfulEqOrd.compare_eq_iff_eq] at h
      cases s <;> cases t
      · obtain ⟨rfl, rfl⟩ := hsame (Ordering.swap_eq_eq.1 (Option.some.inj hcompare))
        exact .inl rfl
      · cases hcompare
      · cases hcompare
      · obtain ⟨rfl, rfl⟩ := hsame (Option.some.inj hcompare)
        exact .inl rfl
    | infinity t => cases s <;> cases t <;> cases hcompare
    | zero t => cases s <;> cases hcompare
    | notANumber => cases s <;> cases hcompare

/-- Equal doubles are equal to the same doubles. -/
theorem float_beq_congr {x y : Float} (h : (x == y) = true) (z : Float) : (x == z) = (y == z) := by
  change x.toModel.unpack.beq y.toModel.unpack = true at h
  change x.toModel.unpack.beq z.toModel.unpack = y.toModel.unpack.beq z.toModel.unpack
  generalize x.toModel.unpack = u at *
  generalize y.toModel.unpack = v at *
  generalize z.toModel.unpack = w
  rcases unpacked_eq_of_beq h with rfl | ⟨s, t, rfl, rfl⟩
  · rfl
  · cases w with
    | infinity r => cases r <;> rfl
    | finite r => cases r <;> rfl
    | zero | notANumber => rfl

/-- What a double equals is a number. -/
theorem isNaN_of_beq {x y : Float} (h : (x == y) = true) : y.isNaN = false := by
  change x.toModel.unpack.beq y.toModel.unpack = true at h
  change y.toModel.unpack.isNaN = false
  generalize x.toModel.unpack = u at *
  generalize y.toModel.unpack = v at *
  rcases unpacked_eq_of_beq h with rfl | ⟨s, t, rfl, rfl⟩
  · cases u with
    | notANumber => cases h
    | infinity | zero | finite => rfl
  · rfl

end Floats

theorem normalKey_normalKey (k : Value) : normalKey (normalKey k) = normalKey k := by
  cases k with
  | float x =>
    cases hx : int64OfFloat? x with
    | some n => simp only [normalKey, hx]
    | none => simp only [normalKey, hx]
  | _ => rfl

namespace Value

variable {a b k : Value}

/-- Stored keys that are equal are the same, or doubles that are equal. -/
theorem IsStored.eq_or_floats (ha : a.IsStored) (hb : b.IsStored) (h : rawEq a b = true) :
    a = b ∨ ∃ x y, a = .float x ∧ b = .float y ∧ (x == y) = true := by
  cases a with
  | nil => exact ha.isKey.elim
  | float x =>
    cases b with
    | float y => exact .inr ⟨x, y, rfl, rfl, h⟩
    | int n => simp [rawEq, int64OfFloat?_eq_none ha.normal] at h
    | _ => cases h
  | int m =>
    cases b with
    | int n => exact .inl (congrArg _ (eq_of_beq h))
    | float y => simp [rawEq, int64OfFloat?_eq_none hb.normal] at h
    | _ => cases h
  | str s =>
    cases b with
    | str t => exact .inl (congrArg _ ((bytesEq_iff s t).mp h))
    | _ => cases h
  | bool | table | func | thread | failure | file =>
    cases b <;> first | exact .inl (congrArg _ (eq_of_beq h)) | cases h

/-- Stored keys that are equal are equal to the same keys. -/
theorem IsStored.rawEq_congr (ha : a.IsStored) (hb : b.IsStored) (h : rawEq a b = true)
    (k : Value) : rawEq a k = rawEq b k := by
  rcases ha.eq_or_floats hb h with rfl | ⟨x, y, rfl, rfl, hxy⟩
  · rfl
  · cases k with
    | float z => exact float_beq_congr hxy z
    | int n =>
      simp only [rawEq, int64OfFloat?_eq_none ha.normal, int64OfFloat?_eq_none hb.normal]
    | _ => rfl

theorem IsStored.rawEq_symm (ha : a.IsStored) (hb : b.IsStored) (h : rawEq a b = true) :
    rawEq b a = true := by
  rw [← ha.rawEq_congr hb h]
  exact rawEq_self ha.isKey

/-- A key in normal form that a stored key is equal to is stored, too. -/
theorem IsStored.of_rawEq (ha : a.IsStored) (hk : normalKey k = k) (h : rawEq a k = true) :
    k.IsStored := by
  refine ⟨?_, hk⟩
  cases k with
  | nil =>
    cases a with
    | nil => exact ha.isKey
    | _ => simp [rawEq] at h
  | float y =>
    cases a with
    | float x => exact isNaN_of_beq h
    | int n => simp [rawEq, int64OfFloat?_eq_none hk] at h
    | _ => simp [rawEq] at h
  | _ => trivial

/-- Stored keys that are equal to the same key are equal. -/
theorem IsStored.rawEq_of_rawEq (ha : a.IsStored) (hb : b.IsStored) (hk : normalKey k = k)
    (hak : rawEq a k = true) (hbk : rawEq b k = true) : rawEq a b = true := by
  have hstored := ha.of_rawEq hk hak
  rw [ha.rawEq_congr hstored hak]
  exact hb.rawEq_symm hstored hbk

theorem text_inj {s t : String} : Value.text s = .text t ↔ s = t :=
  Value.str.injEq .. ▸ String.toByteArray_inj

/-- The string of a text is equal to itself only. -/
theorem rawEq_text {s : String} (h : k ≠ .text s) : rawEq (.text s) (normalKey k) = false := by
  refine Bool.eq_false_iff.mpr fun heq => h ?_
  cases k with
  | str t => exact congrArg Value.str ((bytesEq_iff _ _).mp heq).symm
  | float x =>
    simp only [normalKey] at heq
    split at heq
    · cases heq
    · cases heq
  | _ => cases heq

end Value

namespace Table

variable {t : Table} {key k value : Value}

theorem get_normalKey (t : Table) (key : Value) : t.get (normalKey key) = t.get key := by
  rw [get, normalKey_normalKey, ← get]

/-! ### Where a key is -/

/-- A key has a place in the row, or it is looked up in the slots. -/
theorem rowPlace_cases (size : Nat) (k : Value) :
    (∃ n i, k = .int n ∧ rowPlace? size n = some i) ∨ ∀ n, k = .int n → rowPlace? size n = none := by
  cases k with
  | int n =>
    cases hn : rowPlace? size n with
    | some i => exact .inl ⟨n, i, rfl, hn⟩
    | none =>
      refine .inr fun m hm => ?_
      cases hm
      exact hn
  | _ => exact .inr fun n hn => nomatch hn

theorem get_row {n : Int64} {i : Nat} (hn : rowPlace? t.row.size n = some i) :
    t.get (.int n) = t.row.getD i .nil := by
  simp only [get, normalKey, getInt, hn]

/-- What is in the slot with an equal key. -/
theorem Sound.getSlot_eq (h : t.Sound) (hk : normalKey k = k) {e : Value × Value} (he : e ∈ t.slots)
    (heq : rawEq e.1 k = true) : t.getSlot k = e.2 := by
  obtain ⟨i, hi, rfl⟩ := Array.getElem_of_mem he
  have hslot : t.slot? k = some i := by
    refine slot?_getElem hi heq fun j hj => Bool.eq_false_iff.mpr fun hjeq => ?_
    have hlt := Nat.lt_trans hj hi
    have hjstored := h.slot_stored (Array.getElem_mem hlt)
    have hapart := List.pairwise_iff_getElem.mp h.slots.distinct j i (by simpa using hlt)
      (by simpa using hi) hj
    rw [Array.getElem_toList, Array.getElem_toList,
      hjstored.rawEq_of_rawEq (h.slot_stored he) hk hjeq heq] at hapart
    cases hapart
  simp [getSlot, hslot, Array.getD_eq_getD_getElem?, hi]

theorem getSlot_eq_nil (h : ∀ e ∈ t.slots, rawEq e.1 k = false) : t.getSlot k = .nil := by
  unfold getSlot
  split
  · rename_i i hslot
    obtain ⟨hi, heq, -⟩ := slot?_eq_some hslot
    rw [h _ (Array.getElem_mem hi)] at heq
    cases heq
  · rfl

/-- A key is equal to that of a slot, or to none. -/
theorem Sound.getSlot_cases (h : t.Sound) (hk : normalKey k = k) :
    (∃ e ∈ t.slots, rawEq e.1 k = true ∧ t.getSlot k = e.2) ∨
      (∀ e ∈ t.slots, rawEq e.1 k = false) ∧ t.getSlot k = .nil := by
  by_cases hany : ∃ e ∈ t.slots, rawEq e.1 k = true
  · obtain ⟨e, he, heq⟩ := hany
    exact .inl ⟨e, he, heq, h.getSlot_eq hk he heq⟩
  · have hnone (e : Value × Value) (he : e ∈ t.slots) : rawEq e.1 k = false :=
      Bool.eq_false_iff.mpr fun heq => hany ⟨e, he, heq⟩
    exact .inr ⟨hnone, getSlot_eq_nil hnone⟩

theorem Sound.get_slots (h : t.Sound) (hk : normalKey k = k)
    (hout : ∀ n, k = .int n → rowPlace? t.row.size n = none) : t.get k = t.getSlot k := by
  rw [get, hk]
  split
  · rename_i n
    rw [getInt, hout n rfl]
  · refine (getSlot_eq_nil fun e he => Bool.eq_false_iff.mpr fun heq => ?_).symm
    exact ((h.slot_stored he).of_rawEq rfl heq).isKey
  · rfl

/-! ### A value in one place -/

/-- A value in the row is that of its key. -/
theorem Sound.get_setRow (h : t.Sound) {n : Int64} {i : Nat}
    (hn : rowPlace? t.row.size n = some i) (hk : normalKey k = k) :
    ({ t with row := t.row.setIfInBounds i value } : Table).get k =
      if rawEq (.int n) k then value else t.get k := by
  have hset : Sound { t with row := t.row.setIfInBounds i value } := h.setRow i
  have hsize : (t.row.setIfInBounds i value).size = t.row.size := Array.size_setIfInBounds
  obtain ⟨hni, hlt⟩ := rowPlace?_eq_some.mp hn
  rcases rowPlace_cases t.row.size k with ⟨m, j, rfl, hm⟩ | hout
  · obtain ⟨hmj, hltj⟩ := rowPlace?_eq_some.mp hm
    rw [get_row hm, get_row (by rw [hsize]; exact hm)]
    by_cases hnm : n = m
    · subst hnm
      obtain rfl : i = j := by omega
      simp [rawEq, Array.getD_eq_getD_getElem?, hlt]
    · have hij : i ≠ j := by
        rintro rfl
        exact hnm (Int64.toInt_inj.mp (by omega))
      simp [rawEq, hnm, Array.getD_eq_getD_getElem?, hij]
  · have hne : rawEq (.int n) k = false := by
      refine Bool.eq_false_iff.mpr fun heq => ?_
      have hint := (Value.IsStored.of_rawEq (a := .int n) ⟨trivial, rfl⟩ hk heq).eq_int (.inr heq)
      rw [hout n hint] at hn
      cases hn
    rw [hne, h.get_slots hk hout, hset.get_slots hk (by rw [hsize]; exact hout)]
    rfl

/-- Tables with the same row that differ in the slot of one key differ for that key. -/
theorem Sound.get_of_getSlot {t' : Table} (h : t.Sound) (h' : t'.Sound) (hrow : t'.row = t.row)
    (hkey : key.IsStored) (hout : ∀ n, key = .int n → rowPlace? t.row.size n = none)
    (hk : normalKey k = k)
    (hslots : t'.getSlot k = if rawEq key k then value else t.getSlot k) :
    t'.get k = if rawEq key k then value else t.get k := by
  rcases rowPlace_cases t.row.size k with ⟨n, i, rfl, hn⟩ | hkout
  · have hne : rawEq key (.int n) = false := by
      refine Bool.eq_false_iff.mpr fun heq => ?_
      rw [hout n (hkey.eq_int (.inl heq))] at hn
      cases hn
    rw [hne, get_row hn, get_row (by rw [hrow]; exact hn), hrow]
    rfl
  · rw [h.get_slots hk hkout, h'.get_slots hk (by rw [hrow]; exact hkout), hslots]

/-- A value in a slot is that of its key. -/
theorem Sound.get_setSlot (h : t.Sound) (hkey : key.IsStored)
    (hout : ∀ n, key = .int n → rowPlace? t.row.size n = none) {i : Nat}
    (hslot : t.slot? key = some i) (hk : normalKey k = k) :
    ({ t with slots := t.slots.modify i fun s => (s.1, value) } : Table).get k =
      if rawEq key k then value else t.get k := by
  have hset := h.setSlot i value
  obtain ⟨hi, hieq, -⟩ := slot?_eq_some hslot
  have hcongr := (h.slot_stored (Array.getElem_mem hi)).rawEq_congr hkey hieq k
  refine h.get_of_getSlot hset rfl hkey hout hk ?_
  by_cases heq : rawEq key k = true
  · rw [if_pos heq]
    refine hset.getSlot_eq hk (e := (t.slots[i].1, value)) ?_ (hcongr.trans heq)
    refine Array.mem_of_getElem? (i := i) ?_
    rw [Array.getElem?_modify, if_pos rfl, Array.getElem?_eq_getElem hi]
    rfl
  · rw [if_neg heq]
    rcases h.getSlot_cases hk with ⟨e, he, hek, hget⟩ | ⟨hnone, hget⟩
    · obtain ⟨j, hj, rfl⟩ := Array.getElem_of_mem he
      have hij : i ≠ j := by
        rintro rfl
        exact heq (hcongr ▸ hek)
      rw [hget]
      refine hset.getSlot_eq hk ?_ hek
      refine Array.mem_of_getElem? (i := j) ?_
      rw [Array.getElem?_modify, if_neg hij, Array.getElem?_eq_getElem hj]
    · rw [hget]
      refine getSlot_eq_nil fun e he => ?_
      obtain ⟨j, hj, rfl⟩ := Array.getElem_of_mem he
      rw [Array.size_modify] at hj
      have hkeep : ((t.slots.modify i fun s => (s.1, value))[j]).1 = t.slots[j].1 := by
        rw [Array.getElem_modify]
        split <;> rfl
      rw [hkeep]
      exact hnone _ (Array.getElem_mem hj)

/-- A value in a new slot is that of its key. -/
theorem Sound.get_addSlot (h : t.Sound) (hkey : key.IsStored)
    (hnew : ∀ e ∈ t.slots, rawEq e.1 key = false)
    (hout : ∀ n, key = .int n → rowPlace? t.row.size n = none) (hk : normalKey k = k) :
    (t.addSlot key value).get k = if rawEq key k then value else t.get k := by
  have hadd : (t.addSlot key value).Sound := h.addSlot hkey hnew hout
  refine h.get_of_getSlot hadd rfl hkey hout hk ?_
  by_cases heq : rawEq key k = true
  · rw [if_pos heq]
    exact hadd.getSlot_eq hk Array.mem_push_self heq
  · rw [if_neg heq]
    rcases h.getSlot_cases hk with ⟨e, he, hek, hget⟩ | ⟨hnone, hget⟩
    · rw [hget]
      exact hadd.getSlot_eq hk (Array.mem_push_of_mem _ he) hek
    · rw [hget]
      refine getSlot_eq_nil fun e he => ?_
      obtain he | rfl := Array.mem_push.mp he
      · exact hnone e he
      · exact Bool.eq_false_iff.mpr heq

/-! ### A value for a new key -/

/-- A value that is put into a place for it is that of its key. -/
theorem Sound.get_place (h : t.Sound) (hkey : key.IsStored)
    (hnew : ∀ e ∈ t.slots, rawEq e.1 key = false) (hk : normalKey k = k) :
    (t.place key value).get k = if rawEq key k then value else t.get k := by
  unfold Table.place
  split
  · split
    · rename_i hn
      exact h.get_setRow hn hk
    · rename_i n hn
      refine h.get_addSlot hkey hnew (fun m hm => ?_) hk
      cases hm
      exact hn
  · rename_i hint
    exact h.get_addSlot hkey hnew (fun n hn => absurd hn (hint n)) hk

/-- The value of a key in normal form among these entries. -/
def valueIn (es : List (Value × Value)) (k : Value) : Option Value :=
  (es.find? fun e => rawEq e.1 k).map (·.2)

/-- Values that are put into places for them are those of their keys. -/
theorem Sound.get_places {es : List (Value × Value)} (h : t.Sound) (hes : Apart es)
    (hnew : ∀ a ∈ t.slots, ∀ e ∈ es, rawEq a.1 e.1 = false) (hk : normalKey k = k) :
    (es.foldl (fun t e => t.place e.1 e.2) t).get k = (valueIn es k).getD (t.get k) := by
  induction es generalizing t with
  | nil => rfl
  | cons e es ih =>
    obtain ⟨hstored, hfirst, hes⟩ := hes.cons
    have henew (a : Value × Value) (ha : a ∈ t.slots) : rawEq a.1 e.1 = false :=
      hnew a ha e List.mem_cons_self
    obtain ⟨hplaced, -, hslots⟩ := h.place e.2 hstored henew
    rw [List.foldl_cons, ih hplaced hes, h.get_place hstored henew hk, valueIn, valueIn,
      List.find?_cons]
    · by_cases heq : rawEq e.1 k = true
      · have hnone : es.find? (fun e => rawEq e.1 k) = none := by
          refine List.find?_eq_none.mpr fun b hb hbeq => ?_
          have hebeq := hstored.rawEq_of_rawEq (hes.stored b hb) hk heq hbeq
          rw [hfirst b hb] at hebeq
          cases hebeq
        rw [hnone, heq]
        rfl
      · rw [if_neg heq, Bool.eq_false_iff.mpr heq]
    · intro a ha b hb
      obtain ha | rfl := hslots a ha
      · exact hnew a ha b (List.mem_cons_of_mem e hb)
      · exact hfirst b hb

/-! ### Values by entries -/

theorem mem_rowEntries_iff {i : Nat} {row : List Value} {e : Value × Value} :
    e ∈ rowEntries i row ↔ ∃ j v, row[j]? = some v ∧ v.isNil = false ∧
      e = (.int (Int64.ofNat (i + j + 1)), v) := by
  simp only [rowEntries, List.mem_filterMap, Prod.exists]
  constructor
  · rintro ⟨v, j, hmem, he⟩
    obtain ⟨hle, hget⟩ := List.mem_zipIdx_iff_le_and_getElem?_sub.mp hmem
    split at he
    · cases he
    · rename_i hv
      refine ⟨j - i, v, hget, by simpa using hv, ?_⟩
      rw [Nat.add_sub_cancel' hle]
      exact (Option.some.inj he).symm
  · rintro ⟨j, v, hget, hv, rfl⟩
    refine ⟨v, i + j, ?_, by rw [hv]; rfl⟩
    rw [List.mem_zipIdx_iff_le_and_getElem?_sub]
    exact ⟨Nat.le_add_right i j, by rwa [Nat.add_sub_cancel_left]⟩

/-- An entry holds the value of its key. -/
theorem Sound.get_of_mem (h : t.Sound) (hk : normalKey k = k) {e : Value × Value}
    (he : e ∈ t.entries) (heq : rawEq e.1 k = true) : t.get k = e.2 := by
  have hkstored := (h.entries.stored e he).of_rawEq hk heq
  rw [entries_eq] at he
  obtain he | he := List.mem_append.mp he
  · obtain ⟨i, v, hv, -, rfl⟩ := mem_rowEntries_iff.mp he
    obtain ⟨hi, rfl⟩ := Array.getElem?_eq_some_iff.mp (Array.getElem?_toList ▸ hv)
    rw [hkstored.eq_int (.inr heq), Nat.zero_add, get_row (rowPlace?_ofNat hi h.row)]
    simp [Array.getD_eq_getD_getElem?, hi]
  · have hmem := Array.mem_def.mpr (List.mem_filter.mp he).1
    have hstored := h.slot_stored hmem
    have hout (n : Int64) (hn : k = .int n) : rowPlace? t.row.size n = none :=
      h.outside _ hmem n (hstored.eq_int (.inl (hn ▸ heq)))
    rw [h.get_slots hk hout, h.getSlot_eq hk hmem heq]

/-- What a slot holds is in an entry. -/
theorem entry_of_getSlot (hv : (t.getSlot k).isNil = false) :
    ∃ e ∈ t.entries, rawEq e.1 k = true ∧ e.2 = t.getSlot k := by
  cases hslot : t.slot? k with
  | none =>
    rw [getSlot, hslot] at hv
    cases hv
  | some i =>
    obtain ⟨hi, heq, -⟩ := slot?_eq_some hslot
    have hget : t.getSlot k = t.slots[i].2 := by
      simp only [getSlot, hslot]
      rw [Array.getD_eq_getD_getElem?, Array.getElem?_eq_getElem hi, Option.getD_some]
    rw [hget] at hv ⊢
    refine ⟨t.slots[i], List.mem_append_right _ (List.mem_filter.mpr ?_), heq, rfl⟩
    exact ⟨Array.getElem_mem_toList hi, by rw [hv]; rfl⟩

/-- What a table holds is in one of its entries. -/
theorem entry_of_get (hk : normalKey k = k) (hv : (t.get k).isNil = false) :
    ∃ e ∈ t.entries, rawEq e.1 k = true ∧ e.2 = t.get k := by
  rcases rowPlace_cases t.row.size k with ⟨n, i, rfl, hn⟩ | hout
  · obtain ⟨hni, hi⟩ := rowPlace?_eq_some.mp hn
    have hint := int_of_place hni
    rw [get_row hn, Array.getD_eq_getD_getElem?, Array.getElem?_eq_getElem hi,
      Option.getD_some] at hv ⊢
    refine ⟨(.int n, t.row[i]), List.mem_append_left _ (mem_rowEntries_iff.mpr ?_),
      Value.rawEq_self trivial, rfl⟩
    refine ⟨i, t.row[i], ?_, hv, by rw [Nat.zero_add, ← hint]⟩
    rw [Array.getElem?_toList, Array.getElem?_eq_getElem hi]
  · rw [get, hk] at hv ⊢
    split at hv
    · rename_i n
      rw [getInt, hout n rfl] at hv ⊢
      exact entry_of_getSlot hv
    · cases hv
    · exact entry_of_getSlot hv

/-- A sound table holds what its entries hold. -/
theorem Sound.get_eq (h : t.Sound) (hk : normalKey k = k) :
    t.get k = (valueIn t.entries k).getD .nil := by
  cases hfind : t.entries.find? fun e => rawEq e.1 k with
  | some e =>
    rw [valueIn, hfind]
    have heq : rawEq e.1 k = true := List.find?_some (p := fun e : Value × Value => rawEq e.1 k) hfind
    exact h.get_of_mem hk (List.mem_of_find?_eq_some hfind) heq
  | none =>
    rw [valueIn, hfind]
    cases hv : t.get k with
    | nil => rfl
    | _ =>
      obtain ⟨e, he, heq, -⟩ := entry_of_get (t := t) hk (by rw [hv]; rfl)
      exact absurd heq (List.find?_eq_none.mp hfind e he)

/-! ### A value for any key -/

theorem get_bare (row room : Nat) (metatable : Option Nat) (k : Value) :
    (Table.mk (Array.replicate row .nil) #[] room metatable).get k = .nil := by
  have hbare : (Table.mk (Array.replicate row .nil) #[] room metatable).emptied =
      ⟨Array.replicate row .nil, #[], room, metatable⟩ := by
    simp [emptied]
  rw [← hbare]
  exact get_emptied _ k

/-- A layout holds what the table held. -/
theorem Sound.get_layout (h : t.Sound) {length : Nat} (hlength : length ≤ 0x100000000) (others : Nat)
    (hk : normalKey k = k) : (t.layout length others).get k = t.get k := by
  have hbare := sound_bare hlength (slotRoom others) t.metatable
  rw [Table.layout, hbare.get_places h.entries (fun a ha => absurd ha (Array.not_mem_empty a)) hk,
    get_bare, h.get_eq hk]

theorem Sound.get_grow (h : t.Sound) (key : Value) (hk : normalKey k = k) :
    (t.grow key).get k = t.get k :=
  h.get_layout (Nat.le_trans (rowLength_le ..) (by decide)) _ hk

theorem Sound.get_putSlot (h : t.Sound) (hkey : key.IsStored)
    (hout : ∀ n, key = .int n → rowPlace? t.row.size n = none) (hk : normalKey k = k) :
    (t.putSlot key value).get k = if rawEq key k then value else t.get k := by
  unfold Table.putSlot
  split
  · rename_i hslot
    exact h.get_setSlot hkey hout hslot hk
  · rename_i hslot
    have hnew (e : Value × Value) (he : e ∈ t.slots) : rawEq e.1 key = false :=
      slot?_eq_none hslot he
    split
    · rename_i hnil
      by_cases heq : rawEq key k = true
      · have hkout (n : Int64) (hn : k = .int n) : rowPlace? t.row.size n = none :=
          hout n (hkey.eq_int (.inl (hn ▸ heq)))
        have hknew (e : Value × Value) (he : e ∈ t.slots) : rawEq e.1 k = false := by
          refine Bool.eq_false_iff.mpr fun hek => ?_
          have hekey := (h.slot_stored he).rawEq_of_rawEq hkey hk hek heq
          rw [hnew e he] at hekey
          cases hekey
        rw [if_pos heq, h.get_slots hk hkout, getSlot_eq_nil hknew]
        cases value with
        | nil => rfl
        | _ => cases hnil
      · rw [if_neg heq]
    · split
      · exact h.get_addSlot hkey hnew hout hk
      · obtain ⟨hgrown, hstill⟩ := h.grow hkey hnew hout
        rw [hgrown.get_place hkey hstill hk, h.get_grow key hk]

/-- Setting a value changes what a table holds for keys that are equal, and for no other key. -/
theorem Sound.get_set (h : t.Sound) (hkey : key.IsKey) (value k : Value) :
    (t.set key value).get k = if rawEq (normalKey key) (normalKey k) then value else t.get k := by
  rw [← get_normalKey, ← get_normalKey t k]
  have hk := normalKey_normalKey k
  have hstored := hkey.normalKey
  unfold Table.set
  generalize normalKey key = key at hstored
  generalize normalKey k = k at hk
  unfold put
  split
  · split
    · rename_i hn
      exact h.get_setRow hn hk
    · rename_i n hn
      refine h.get_putSlot hstored (fun m hm => ?_) hk
      cases hm
      exact hn
  · rename_i hint
    exact h.get_putSlot hstored (fun n hn => absurd hn (hint n)) hk

/-- A text is the key of one value. -/
theorem Sound.get_set_text (h : t.Sound) (name : String) (value : Value) {k : Value}
    (hk : k ≠ .text name) : (t.set (.text name) value).get k = t.get k := by
  rw [h.get_set (Value.isKey_text name)]
  exact if_neg (Bool.eq_false_iff.mp (Value.rawEq_text hk))

end Table

end LuaSession.Lua
