import LuaSession.Proofs.Lua.Policy

/-!
# Sound tables

What holds of every table that programs can make: keys are stored in normal form, each of them once,
and those that have a place in the row are nowhere else. So a table can be emptied by setting what is in
it to nil, entry after entry.

* `Table.Sound.set`: setting a value keeps this.
* `Table.Sound.unset_entries`: what is left when each entry was set to nil.
-/

namespace LuaSession.Lua

/-! ### Keys -/

/-- A double that is a number equals itself. -/
theorem float_beq_self {x : Float} (h : x.isNaN = false) : (x == x) = true := by
  change x.toModel.unpack.beq x.toModel.unpack = true
  change x.toModel.unpack.isNaN = false at h
  generalize x.toModel.unpack = u at *
  cases u with
  | notANumber => cases h
  | infinity s => cases s <;> rfl
  | zero s => rfl
  | finite s m e hm =>
    have hself : (compare e e).then (compare m m) = .eq := by
      rw [Std.ReflOrd.compare_self, Std.ReflOrd.compare_self]
      rfl
    cases s with
    | positive => exact congrArg (fun o => some o == some .eq) hself
    | negative => exact congrArg (fun o => some o.swap == some .eq) hself

namespace Value

/-- A key in the form in which tables store it. -/
structure IsStored (k : Value) : Prop where
  isKey : k.IsKey
  normal : normalKey k = k

theorem IsKey.normalKey {k : Value} (h : k.IsKey) : (normalKey k).IsStored := by
  cases k with
  | float x =>
    cases hx : int64OfFloat? x with
    | some n =>
      simp only [Lua.normalKey, hx]
      exact ⟨trivial, rfl⟩
    | none =>
      simp only [Lua.normalKey, hx]
      exact ⟨h, by simp only [Lua.normalKey, hx]⟩
  | nil => cases h
  | bool | int | str | table | func | thread | failure | file => exact ⟨trivial, rfl⟩

theorem rawEq_self {k : Value} (h : k.IsKey) : rawEq k k = true := by
  cases k with
  | nil => cases h
  | float x => exact float_beq_self h
  | str s => exact (bytesEq_iff s s).mpr rfl
  | bool | int | table | func | thread | failure | file => exact beq_self_eq_true _

/-- A double in normal form equals no integer. -/
theorem int64OfFloat?_eq_none {x : Float} (h : Lua.normalKey (.float x) = .float x) :
    int64OfFloat? x = none := by
  simp only [Lua.normalKey] at h
  split at h
  · cases h
  · assumption

/-- Stored keys that are equal to an integer are that integer. -/
theorem IsStored.eq_int {k : Value} (h : k.IsStored) {n : Int64}
    (hk : rawEq k (.int n) = true ∨ rawEq (.int n) k = true) : k = .int n := by
  cases k with
  | int m =>
    rcases hk with hk | hk
    · rw [eq_of_beq hk]
    · rw [eq_of_beq hk]
  | float x => simp [rawEq, int64OfFloat?_eq_none h.normal] at hk
  | nil | bool | str | table | func | thread | failure | file => simp [rawEq] at hk

end Value

/-- The place of an integer in a row. -/
theorem rowPlace?_eq_some {size i : Nat} {n : Int64} :
    rowPlace? size n = some i ↔ n.toInt = i + 1 ∧ i < size := by
  simp only [rowPlace?, Bool.and_eq_true, decide_eq_true_eq]
  split
  · simp only [Option.some.injEq]
    omega
  · simp only [reduceCtorEq, false_iff]
    omega

/-- An integer by its place, counted from 0. -/
theorem int_of_place {n : Int64} {i : Nat} (h : n.toInt = i + 1) : n = Int64.ofNat (i + 1) := by
  have hmax := n.toInt_lt
  refine Int64.toInt_inj.mp ?_
  rw [Int64.toInt_ofNat_of_lt (by omega), h]
  rfl

theorem rowPlace?_ofNat {size i : Nat} (h : i < size) (hsize : size ≤ 0x100000000) :
    rowPlace? size (Int64.ofNat (i + 1)) = some i := by
  rw [rowPlace?_eq_some, Int64.toInt_ofNat_of_lt (by omega)]
  exact ⟨by omega, h⟩

namespace Table

variable {t : Table} {key value : Value}

/-! ### What stays true -/

/-- Entries under stored keys, no two of which are equal. -/
structure Apart (es : List (Value × Value)) : Prop where
  stored : ∀ e ∈ es, e.1.IsStored
  distinct : es.Pairwise fun a b => rawEq a.1 b.1 = false

/-- The row has a length that layouts give, and the slots are apart from each other and from it. -/
structure Sound (t : Table) : Prop where
  row : t.row.size ≤ 0x100000000
  slots : Apart t.slots.toList
  outside : ∀ e ∈ t.slots, ∀ n, e.1 = .int n → rowPlace? t.row.size n = none

/-- A table without entries is sound. -/
theorem sound_bare {row : Nat} (h : row ≤ 0x100000000) (room : Nat) (metatable : Option Nat) :
    Sound ⟨Array.replicate row .nil, #[], room, metatable⟩ := by
  refine ⟨?_, ⟨List.forall_mem_nil _, .nil⟩, fun e he => absurd he (Array.not_mem_empty e)⟩
  rwa [Array.size_replicate]

theorem sound_sized {row : Nat} (h : row ≤ 0x100000000) (others : Nat) : (sized row others).Sound :=
  sound_bare h _ none

theorem Apart.cons {e : Value × Value} {es : List (Value × Value)} (h : Apart (e :: es)) :
    e.1.IsStored ∧ (∀ a ∈ es, rawEq e.1 a.1 = false) ∧ Apart es := by
  obtain ⟨hstored, hdistinct⟩ := h
  rw [List.forall_mem_cons] at hstored
  rw [List.pairwise_cons] at hdistinct
  exact ⟨hstored.1, hdistinct.1, hstored.2, hdistinct.2⟩

theorem Apart.append {es es' : List (Value × Value)} (h : Apart es) (h' : Apart es')
    (hapart : ∀ a ∈ es, ∀ b ∈ es', rawEq a.1 b.1 = false) : Apart (es ++ es') where
  stored := by
    intro e he
    obtain he | he := List.mem_append.mp he
    · exact h.stored e he
    · exact h'.stored e he
  distinct := List.pairwise_append.mpr ⟨h.distinct, h'.distinct, hapart⟩

theorem Apart.singleton {e : Value × Value} (h : e.1.IsStored) : Apart [e] :=
  ⟨List.forall_mem_singleton.mpr h, List.pairwise_singleton _ _⟩

/-- Only the keys matter. -/
theorem Apart.of_keys {es es' : List (Value × Value)} (h : Apart es)
    (hkeys : es'.map (·.1) = es.map (·.1)) : Apart es' where
  stored := by
    intro e he
    have hmem : e.1 ∈ es.map (·.1) := hkeys ▸ List.mem_map_of_mem he
    obtain ⟨a, ha, hae⟩ := List.mem_map.mp hmem
    exact hae ▸ h.stored a ha
  distinct := by
    have hmap (l : List (Value × Value)) : (l.Pairwise fun a b => rawEq a.1 b.1 = false) ↔
        (l.map (·.1)).Pairwise fun a b => rawEq a b = false :=
      (List.pairwise_map (R := fun a b => rawEq a b = false)).symm
    rw [hmap, hkeys, ← hmap]
    exact h.distinct

namespace Sound

theorem slot_stored (h : t.Sound) {e : Value × Value} (he : e ∈ t.slots) : e.1.IsStored :=
  h.slots.stored e (Array.mem_def.mp he)

/-- A value in the row. -/
theorem setRow (h : t.Sound) (i : Nat) : Sound { t with row := t.row.setIfInBounds i value } where
  row := by
    rw [Array.size_setIfInBounds]
    exact h.row
  slots := h.slots
  outside e he n hn := by
    rw [Array.size_setIfInBounds]
    exact h.outside e he n hn

/-- A value in a slot. -/
theorem setSlot (h : t.Sound) (i : Nat) (value : Value) :
    Sound { t with slots := t.slots.modify i fun s => (s.1, value) } where
  row := h.row
  slots := h.slots.of_keys (keys_setSlot t i value)
  outside e he n hn := by
    obtain ⟨j, hj, rfl⟩ := Array.getElem_of_mem he
    rw [Array.size_modify] at hj
    refine h.outside t.slots[j] (Array.getElem_mem hj) n ?_
    rw [Array.getElem_modify] at hn
    split at hn
    · exact hn
    · exact hn

/-- A value for a new key that has no place in the row. -/
theorem addSlot (h : t.Sound) (hkey : key.IsStored)
    (hnew : ∀ e ∈ t.slots, rawEq e.1 key = false)
    (hout : ∀ n, key = .int n → rowPlace? t.row.size n = none) : (t.addSlot key value).Sound where
  row := h.row
  slots := by
    rw [Table.addSlot, Array.toList_push]
    refine h.slots.append (.singleton hkey) fun a ha b hb => ?_
    rw [List.mem_singleton] at hb
    subst hb
    exact hnew a (Array.mem_def.mpr ha)
  outside e he n hn := by
    obtain he | rfl := Array.mem_push.mp he
    · exact h.outside e he n hn
    · exact hout n hn

/-- A value for a new key. -/
theorem place (h : t.Sound) (value : Value) (hkey : key.IsStored)
    (hnew : ∀ e ∈ t.slots, rawEq e.1 key = false) :
    (t.place key value).Sound ∧ (t.place key value).row.size = t.row.size ∧
      ∀ e ∈ (t.place key value).slots, e ∈ t.slots ∨ e = (key, value) := by
  unfold Table.place
  split
  · split
    · exact ⟨h.setRow _, Array.size_setIfInBounds, fun e he => .inl he⟩
    · rename_i n hn
      refine ⟨h.addSlot hkey hnew fun m hm => ?_, rfl, fun e he => Array.mem_push.mp he⟩
      cases hm
      exact hn
  · rename_i hint
    exact ⟨h.addSlot hkey hnew fun n hn => absurd hn (hint n), rfl, fun e he => Array.mem_push.mp he⟩

/-- Values for new keys, one after the other. -/
theorem places {es : List (Value × Value)} (h : t.Sound) (hes : Apart es)
    (hnew : ∀ a ∈ t.slots, ∀ e ∈ es, rawEq a.1 e.1 = false) :
    (es.foldl (fun t e => t.place e.1 e.2) t).Sound ∧
      ∀ a ∈ (es.foldl (fun t e => t.place e.1 e.2) t).slots, a ∈ t.slots ∨ a ∈ es := by
  induction es generalizing t with
  | nil => exact ⟨h, fun a ha => .inl ha⟩
  | cons e es ih =>
    obtain ⟨hstored, hfirst, hes⟩ := hes.cons
    obtain ⟨hplaced, hsize, hslots⟩ :=
      h.place e.2 hstored fun a ha => hnew a ha e List.mem_cons_self
    obtain ⟨hsound, hmem⟩ := ih hplaced hes fun a ha b hb => by
      obtain ha | rfl := hslots a ha
      · exact hnew a ha b (List.mem_cons_of_mem e hb)
      · exact hfirst b hb
    refine ⟨hsound, fun a ha => ?_⟩
    obtain ha | ha := hmem a ha
    · obtain ha | rfl := hslots a ha
      · exact .inl ha
      · exact .inr List.mem_cons_self
    · exact .inr (List.mem_cons_of_mem e ha)

end Sound

/-! ### Entries -/

/-- The entries of the row, from place `i` on. -/
def rowEntries (i : Nat) (row : List Value) : List (Value × Value) :=
  (row.zipIdx i).filterMap fun (v, i) =>
    if v.isNil then none else some (Value.int (Int64.ofNat (i + 1)), v)

theorem entries_eq (t : Table) :
    t.entries = rowEntries 0 t.row.toList ++ t.slots.toList.filter fun s => !s.2.isNil := rfl

theorem mem_rowEntries {i : Nat} {row : List Value} {e : Value × Value}
    (h : e ∈ rowEntries i row) :
    ∃ j, i ≤ j ∧ j < i + row.length ∧ e.1 = .int (Int64.ofNat (j + 1)) := by
  obtain ⟨⟨v, j⟩, hmem, he⟩ := List.mem_filterMap.mp h
  obtain ⟨hle, hlt, -⟩ := List.mem_zipIdx hmem
  dsimp only at he
  split at he
  · cases he
  · cases he
    exact ⟨j, hle, hlt, rfl⟩

theorem int_ne {i j : Nat} (h : i < j) (hj : j < 0x100000000) :
    rawEq (.int (Int64.ofNat (i + 1))) (.int (Int64.ofNat (j + 1))) = false := by
  refine beq_eq_false_iff_ne.mpr fun heq => ?_
  have htoInt := congrArg Int64.toInt heq
  rw [Int64.toInt_ofNat_of_lt (by omega), Int64.toInt_ofNat_of_lt (by omega)] at htoInt
  omega

theorem rowEntries_apart {i : Nat} {row : List Value} (h : i + row.length ≤ 0x100000000) :
    Apart (rowEntries i row) := by
  induction row generalizing i with
  | nil => exact ⟨List.forall_mem_nil _, .nil⟩
  | cons v row ih =>
    rw [List.length_cons] at h
    have hrest := ih (i := i + 1) (by omega)
    rw [rowEntries, List.zipIdx_cons, List.filterMap_cons]
    split
    · exact hrest
    · rename_i e he
      dsimp only at he
      split at he
      · cases he
      · cases he
        have hone : Apart [(Value.int (Int64.ofNat (i + 1)), v)] := .singleton ⟨trivial, rfl⟩
        refine hone.append hrest fun a ha b hb => ?_
        rw [List.mem_singleton] at ha
        obtain ⟨j, hj, hlt, hb⟩ := mem_rowEntries hb
        rw [ha, hb]
        exact int_ne (by omega) (by omega)

namespace Sound

/-- The entries of a sound table are apart. -/
theorem entries (h : t.Sound) : Apart t.entries := by
  have hrow := h.row
  have hslots : Apart (t.slots.toList.filter fun s => !s.2.isNil) :=
    ⟨fun e he => h.slots.stored e (List.mem_filter.mp he).1, h.slots.distinct.filter _⟩
  refine (rowEntries_apart (by simpa using hrow)).append hslots fun a ha b hb => ?_
  obtain ⟨i, -, hi, ha⟩ := mem_rowEntries ha
  replace hb := (List.mem_filter.mp hb).1
  have hplace := rowPlace?_ofNat (i := i) (by simpa using hi) hrow
  rw [ha]
  refine Bool.eq_false_iff.mpr fun heq => ?_
  have hint := (h.slots.stored b hb).eq_int (.inr heq)
  rw [h.outside b (Array.mem_def.mpr hb) _ hint] at hplace
  cases hplace

/-- What is not in a sound table is apart from its entries. -/
theorem entries_new (h : t.Sound) (hkey : key.IsStored)
    (hnew : ∀ e ∈ t.slots, rawEq e.1 key = false)
    (hout : ∀ n, key = .int n → rowPlace? t.row.size n = none) {e : Value × Value}
    (he : e ∈ t.entries) : rawEq e.1 key = false := by
  rw [entries_eq] at he
  obtain he | he := List.mem_append.mp he
  · obtain ⟨i, -, hi, he⟩ := mem_rowEntries he
    have hplace := rowPlace?_ofNat (i := i) (by simpa using hi) h.row
    refine Bool.eq_false_iff.mpr fun heq => ?_
    rw [he] at heq
    have hint := hkey.eq_int (.inr heq)
    rw [hout _ hint] at hplace
    cases hplace
  · exact hnew e (Array.mem_def.mpr (List.mem_filter.mp he).1)

end Sound

/-! ### Layouts -/

theorem rowLength_le (counts : Array Nat) (total fuel digits power below best : Nat) :
    rowLength counts total fuel digits power below best ≤ max best (power * Nat.pow 2 fuel) := by
  induction fuel generalizing digits power below best with
  | zero => exact Nat.le_max_left _ _
  | succ fuel ih =>
    unfold rowLength
    split
    · refine Nat.le_trans (ih ..) ?_
      have hpower : power * 2 * Nat.pow 2 fuel = power * Nat.pow 2 (fuel + 1) := by
        have hsucc : Nat.pow 2 (fuel + 1) = Nat.pow 2 fuel * 2 := rfl
        rw [hsucc, Nat.mul_assoc, Nat.mul_comm 2]
      rw [hpower]
      have hle : power ≤ power * Nat.pow 2 (fuel + 1) := Nat.le_mul_of_pos_right _ (Nat.two_pow_pos _)
      split <;> omega
    · exact Nat.le_max_left _ _

namespace Sound

/-- A layout has the same entries in another place. -/
theorem layout (h : t.Sound) {length : Nat} (hlength : length ≤ 0x100000000) (others : Nat) :
    (t.layout length others).Sound ∧ ∀ a ∈ (t.layout length others).slots, a ∈ t.entries := by
  have hfresh := sound_bare hlength (slotRoom others) t.metatable
  obtain ⟨hsound, hmem⟩ := hfresh.places h.entries fun a ha => absurd ha (Array.not_mem_empty a)
  refine ⟨hsound, fun a ha => ?_⟩
  obtain ha | ha := hmem a ha
  · exact absurd ha (Array.not_mem_empty a)
  · exact ha

/-- A table that has grown for a new key is sound, and the key is still new. -/
theorem grow (h : t.Sound) (hkey : key.IsStored) (hnew : ∀ e ∈ t.slots, rawEq e.1 key = false)
    (hout : ∀ n, key = .int n → rowPlace? t.row.size n = none) :
    (t.grow key).Sound ∧ ∀ e ∈ (t.grow key).slots, rawEq e.1 key = false := by
  have hlength (counts : Array Nat) (total : Nat) : rowLength counts total 32 0 1 0 0 ≤ 0x100000000 :=
    Nat.le_trans (rowLength_le ..) (by decide)
  obtain ⟨hsound, hmem⟩ := h.layout (hlength _ _) _
  exact ⟨hsound, fun e he => h.entries_new hkey hnew hout (hmem e he)⟩

theorem putSlot (h : t.Sound) (hkey : key.IsStored)
    (hout : ∀ n, key = .int n → rowPlace? t.row.size n = none) : (t.putSlot key value).Sound := by
  unfold Table.putSlot
  split
  · exact h.setSlot _ _
  · rename_i hslot
    have hnew (e : Value × Value) (he : e ∈ t.slots) : rawEq e.1 key = false :=
      slot?_eq_none hslot he
    split
    · exact h
    · split
      · exact h.addSlot hkey hnew hout
      · obtain ⟨hgrown, hstill⟩ := h.grow hkey hnew hout
        exact (hgrown.place value hkey hstill).1

/-- Setting a value keeps a table sound. -/
theorem set (h : t.Sound) (hkey : key.IsKey) : (t.set key value).Sound := by
  have hstored := hkey.normalKey
  unfold Table.set
  generalize normalKey key = k at hstored
  unfold put
  split
  · split
    · exact h.setRow _
    · rename_i n hn
      refine h.putSlot hstored fun m hm => ?_
      cases hm
      exact hn
  · rename_i hint
    exact h.putSlot hstored fun n hn => absurd hn (hint n)

end Sound

/-! ### Emptying a table -/

/-- The table with its keys and without their values. -/
def emptied (t : Table) : Table :=
  { t with
    row := Array.replicate t.row.size .nil
    slots := t.slots.map fun s => (s.1, .nil) }

/-- Sets a key to nil. -/
def unset (t : Table) (e : Value × Value) : Table := t.set e.1 .nil

theorem unset_int (t : Table) {i : Nat} (hi : i < t.row.size) (hsize : t.row.size ≤ 0x100000000)
    (v : Value) :
    t.unset (.int (Int64.ofNat (i + 1)), v) = { t with row := t.row.setIfInBounds i .nil } := by
  simp only [unset, Table.set, normalKey, put, rowPlace?_ofNat hi hsize]

theorem Sound.unset_slot (h : t.Sound) {i : Nat} (hi : i < t.slots.size) :
    t.unset t.slots[i] = { t with slots := t.slots.modify i fun s => (s.1, .nil) } := by
  have hmem := Array.getElem_mem hi
  have hstored := h.slot_stored hmem
  have hslot : t.slot? t.slots[i].1 = some i := by
    refine slot?_getElem hi (Value.rawEq_self hstored.isKey) fun k hk => ?_
    exact List.pairwise_iff_getElem.mp h.slots.distinct k i (by simpa using Nat.lt_trans hk hi)
      (by simpa using hi) hk
  have hput : t.putSlot t.slots[i].1 .nil =
      { t with slots := t.slots.modify i fun s => (s.1, .nil) } := by
    simp only [Table.putSlot, hslot]
  unfold unset Table.set
  rw [hstored.normal, ← hput]
  unfold put
  split
  · rename_i n hn
    rw [h.outside _ hmem n hn, hn]
  · rfl

/-- Unsetting what is in the row, from place `i` on, leaves an empty row. -/
theorem unset_rowEntries (slots : Array (Value × Value)) (room : Nat) (metatable : Option Nat)
    (row : List Value) {i : Nat} (hsize : i + row.length ≤ 0x100000000) :
    (rowEntries i row).foldl unset
        ⟨(List.replicate i Value.nil ++ row).toArray, slots, room, metatable⟩ =
      ⟨Array.replicate (i + row.length) .nil, slots, room, metatable⟩ := by
  induction row generalizing i with
  | nil => simp [rowEntries]
  | cons v row ih =>
    rw [List.length_cons] at hsize ⊢
    have hnext : List.replicate i Value.nil ++ .nil :: row =
        List.replicate (i + 1) .nil ++ row := by
      rw [List.replicate_succ', List.append_assoc]
      rfl
    have hrest := ih (i := i + 1) (by omega)
    rw [← hnext, Nat.add_assoc, Nat.add_comm 1] at hrest
    rw [rowEntries, List.zipIdx_cons, List.filterMap_cons]
    dsimp only
    split
    · rename_i hv
      split at hv
      · rename_i hnil
        cases v with
        | nil => exact hrest
        | _ => cases hnil
      · cases hv
    · rename_i e hv
      split at hv
      · cases hv
      · cases hv
        have hset : (List.replicate i Value.nil ++ v :: row).toArray.setIfInBounds i .nil =
            (List.replicate i Value.nil ++ Value.nil :: row).toArray := by simp
        rw [List.foldl_cons, unset_int _ (by simp) (by simp; omega), hset]
        exact hrest

/-- Unsetting what is in the slots, behind those that hold nothing, leaves slots that hold nothing. -/
theorem unset_slotEntries {row : Array Value} {room : Nat} {metatable : Option Nat}
    {done rest : List (Value × Value)} (h : Sound ⟨row, (done ++ rest).toArray, room, metatable⟩)
    (hdone : ∀ e ∈ done, e.2 = .nil) :
    (rest.filter fun s => !s.2.isNil).foldl unset ⟨row, (done ++ rest).toArray, room, metatable⟩ =
      ⟨row, ((done ++ rest).map fun s => (s.1, .nil)).toArray, room, metatable⟩ := by
  induction rest generalizing done with
  | nil =>
    have hsame : done.map (fun s => (s.1, Value.nil)) = done :=
      (List.map_congr_left fun e he => by rw [← hdone e he]; rfl).trans (List.map_id _)
    simp [hsame]
  | cons e rest ih =>
    have hmore (a : Value × Value) (ha : a.2 = .nil) : ∀ b ∈ done ++ [a], b.2 = .nil := by
      intro b hb
      obtain hb | hb := List.mem_append.mp hb
      · exact hdone b hb
      · rw [List.mem_singleton.mp hb]
        exact ha
    have hnext (a : Value × Value) : done ++ a :: rest = done ++ [a] ++ rest := by
      rw [List.append_assoc]
      rfl
    rw [List.filter_cons]
    split
    · have hi : done.length < (done ++ e :: rest).toArray.size := by simp
      have hunset := h.unset_slot hi
      have hset := h.setSlot done.length .nil
      have hmodify : ((done ++ e :: rest).toArray.modify done.length fun s => (s.1, Value.nil)) =
          (done ++ [(e.1, Value.nil)] ++ rest).toArray := by
        simp [List.modify_eq_take_drop]
      dsimp only at hunset hset
      rw [hmodify] at hunset hset
      simp only [List.getElem_toArray, List.getElem_append_right (Nat.le_refl _), Nat.sub_self,
        List.getElem_cons_zero] at hunset
      rw [List.foldl_cons, hunset, ih hset (hmore _ rfl)]
      simp
    · rename_i hnil
      have hnil' : e.2 = .nil := by
        cases hv : e.2 with
        | nil => rfl
        | _ => simp [hv, Value.isNil] at hnil
      rw [hnext] at h ⊢
      exact ih h (hmore e hnil')

/-- A sound table is emptied by setting to nil what is in it. -/
theorem Sound.unset_entries (h : t.Sound) : t.entries.foldl unset t = t.emptied := by
  obtain ⟨row, slots, room, metatable⟩ := t
  have hrow := unset_rowEntries slots room metatable row.toList (i := 0) (by simpa using h.row)
  have hempty : Sound ⟨Array.replicate row.size .nil, ([] ++ slots.toList).toArray, room,
      metatable⟩ := by
    refine ⟨?_, h.slots, fun e he n hn => ?_⟩
    · rw [Array.size_replicate]
      exact h.row
    · rw [Array.size_replicate]
      exact h.outside e he n hn
  have hslots := unset_slotEntries hempty (List.forall_mem_nil _)
  rw [Nat.zero_add, Array.length_toList] at hrow
  rw [entries_eq, List.foldl_append]
  change List.foldl unset (List.foldl unset ⟨row, slots, room, metatable⟩ _) _ = _
  rw [List.replicate_zero, List.nil_append, Array.toArray_toList] at hrow
  rw [hrow]
  refine hslots.trans ?_
  rw [List.nil_append, ← Array.toList_map, Array.toArray_toList]
  rfl

theorem entries_emptied (t : Table) : t.emptied.entries = [] := by
  rw [entries_eq, List.append_eq_nil_iff]
  constructor
  · refine List.filterMap_eq_nil_iff.mpr fun e he => ?_
    obtain ⟨v, i⟩ := e
    have hv := List.fst_mem_of_mem_zipIdx he
    simp only [emptied, Array.toList_replicate, List.mem_replicate] at hv
    rw [hv.2]
    rfl
  · refine List.filter_eq_nil_iff.mpr fun e he => ?_
    simp only [emptied, Array.toList_map, List.mem_map] at he
    obtain ⟨s, -, rfl⟩ := he
    exact Bool.not_eq_true _ ▸ rfl

/-- An emptied table has nothing under any key. -/
theorem get_emptied (t : Table) (key : Value) : t.emptied.get key = .nil := by
  have hslot (k : Value) : t.emptied.getSlot k = .nil := by
    unfold getSlot
    split
    · rename_i i hi
      obtain ⟨hlt, -⟩ := slot?_eq_some hi
      rw [Array.getD_eq_getD_getElem?, Array.getElem?_eq_getElem hlt]
      simp [emptied]
    · rfl
  unfold get
  split
  · rename_i n _
    unfold getInt
    split
    · simp [emptied, Array.getD_eq_getD_getElem?, Array.getElem?_replicate]
      grind
    · exact hslot _
  · rfl
  · exact hslot _

theorem Sound.emptied (h : t.Sound) : t.emptied.Sound where
  row := by
    rw [Table.emptied, Array.size_replicate]
    exact h.row
  slots := by
    refine h.slots.of_keys ?_
    simp [Table.emptied]
  outside e he n hn := by
    simp only [Table.emptied, Array.mem_map] at he
    obtain ⟨s, hs, rfl⟩ := he
    rw [Table.emptied, Array.size_replicate]
    exact h.outside s hs n hn

end Table

end LuaSession.Lua
