import LuaSession.Lua.Table

/-!
# Slots

A key that has no place in the row is kept in the first slot whose key equals it. A string takes one slot
at most, in every table that can be made: a key gets a new slot only where none has it.

* `Table.slot?_eq_some`, `Table.slot?_eq_none`: what is found.
* `Table.TextsOnce`: no string is the key of two slots.
* `Table.TextsOnce.set`: setting a value keeps this.
-/

namespace LuaSession.Lua

namespace Table

/-! ### Finding a slot -/

theorem slotFrom_eq_some {slots : Array (Value × Value)} {key : Value} {fuel i j : Nat}
    (h : slotFrom slots key fuel i = some j) :
    ∃ hj : j < slots.size, rawEq slots[j].1 key = true ∧
      ∀ k, i ≤ k → (hk : k < j) → rawEq slots[k].1 key = false := by
  induction fuel generalizing i with
  | zero => cases h
  | succ fuel ih =>
    unfold slotFrom at h
    split at h
    · rename_i s hs
      obtain ⟨hi, rfl⟩ := Array.getElem?_eq_some_iff.mp hs
      split at h
      · rename_i heq
        cases h
        exact ⟨hi, heq, fun k hk hk' => absurd hk' (by omega)⟩
      · rename_i hne
        obtain ⟨hj, heq, hfirst⟩ := ih h
        refine ⟨hj, heq, fun k hk hk' => ?_⟩
        rcases Nat.eq_or_lt_of_le hk with rfl | hk
        · exact Bool.not_eq_true _ ▸ hne
        · exact hfirst k hk hk'
    · cases h

theorem slotFrom_eq_none {slots : Array (Value × Value)} {key : Value} {fuel i : Nat}
    (hfuel : slots.size ≤ i + fuel) (h : slotFrom slots key fuel i = none) {k : Nat} (hk : i ≤ k)
    (hk' : k < slots.size) : rawEq slots[k].1 key = false := by
  induction fuel generalizing i with
  | zero => omega
  | succ fuel ih =>
    unfold slotFrom at h
    split at h
    · rename_i s hs
      obtain ⟨hi, rfl⟩ := Array.getElem?_eq_some_iff.mp hs
      split at h
      · cases h
      · rename_i hne
        rcases Nat.eq_or_lt_of_le hk with rfl | hk
        · exact Bool.not_eq_true _ ▸ hne
        · exact ih (by omega) h hk
    · rename_i hs
      have := Array.getElem?_eq_none_iff.mp hs
      omega

variable {t : Table} {key value : Value}

theorem slot?_eq_some {i : Nat} (h : t.slot? key = some i) :
    ∃ hi : i < t.slots.size, rawEq t.slots[i].1 key = true ∧
      ∀ k, (hk : k < i) → rawEq t.slots[k].1 key = false := by
  obtain ⟨hi, heq, hfirst⟩ := slotFrom_eq_some h
  exact ⟨hi, heq, fun k hk => hfirst k (Nat.zero_le k) hk⟩

theorem slot?_eq_none (h : t.slot? key = none) {e : Value × Value} (he : e ∈ t.slots) :
    rawEq e.1 key = false := by
  obtain ⟨k, hk, rfl⟩ := Array.getElem_of_mem he
  exact slotFrom_eq_none (Nat.le_add_left _ _) h (Nat.zero_le k) hk

/-- The slot of a key that is not equal to an earlier one. -/
theorem slot?_getElem {i : Nat} (hi : i < t.slots.size) (heq : rawEq t.slots[i].1 key = true)
    (hfirst : ∀ k, (hk : k < i) → rawEq t.slots[k].1 key = false) : t.slot? key = some i := by
  cases h : t.slot? key with
  | none =>
    rw [slot?_eq_none h (Array.getElem_mem hi)] at heq
    cases heq
  | some j =>
    obtain ⟨hj, hjeq, hjfirst⟩ := slot?_eq_some h
    rcases Nat.lt_trichotomy i j with hij | rfl | hij
    · rw [hjfirst i hij] at heq
      cases heq
    · rfl
    · rw [hfirst j hij] at hjeq
      cases hjeq

/-- A value in a slot leaves its key. -/
theorem keys_setSlot (t : Table) (i : Nat) (value : Value) :
    (t.slots.modify i fun s => (s.1, value)).toList.map (·.1) = t.slots.toList.map (·.1) := by
  refine List.ext_getElem? fun j => ?_
  rw [List.getElem?_map, List.getElem?_map, Array.getElem?_toList, Array.getElem?_toList,
    Array.getElem?_modify]
  split
  · rw [Option.map_map]
    rfl
  · rfl

/-! ### Strings -/

/-- The strings among some keys. -/
def strings (keys : List Value) : List ByteArray :=
  keys.filterMap fun k => match k with
    | .str s => some s
    | _ => none

theorem mem_strings {keys : List Value} {s : ByteArray} : s ∈ strings keys ↔ .str s ∈ keys := by
  rw [strings, List.mem_filterMap]
  constructor
  · rintro ⟨k, hk, hs⟩
    cases k with
    | str => exact congrArg Value.str (Option.some.inj hs) ▸ hk
    | _ => cases hs
  · exact fun h => ⟨_, h, rfl⟩

theorem strings_append (ks ks' : List Value) : strings (ks ++ ks') = strings ks ++ strings ks' :=
  List.filterMap_append

theorem strings_texts {α : Type} (f : α → String) (l : List α) :
    strings (l.map fun a => .text (f a)) = l.map fun a => bytes (f a) := by
  rw [strings, List.filterMap_map]
  exact congrFun (List.filterMap_eq_map (f := fun a => bytes (f a))) l

/-- No string is the key of two slots. -/
def TextsOnce (t : Table) : Prop := (strings (t.slots.toList.map (·.1))).Nodup

/-- A table without slots, whatever its row. -/
theorem textsOnce_row (row : Array Value) (room : Nat) (mark : Option Nat) :
    TextsOnce ⟨row, #[], room, mark⟩ := List.nodup_nil

@[grind ←]
theorem textsOnce_sized (row others : Nat) : (sized row others).TextsOnce := textsOnce_row ..

@[grind ←]
theorem textsOnce_ofList (vs : List Value) : (ofList vs).TextsOnce := textsOnce_row ..

@[grind ←]
theorem TextsOnce.metatable (h : t.TextsOnce) (mark : Option Nat) :
    TextsOnce { t with metatable := mark } := h

/-- The strings among the keys of entries are those of slots. -/
theorem strings_entries (t : Table) :
    (strings (t.entries.map (·.1))).Sublist (strings (t.slots.toList.map (·.1))) := by
  have hints {f : Value × Nat → Option (Value × Value)}
      (hf : ∀ p e, f p = some e → ∃ n, e.1 = .int n) (row : List (Value × Nat)) :
      strings ((row.filterMap f).map (·.1)) = [] := by
    refine List.filterMap_eq_nil_iff.mpr fun k hk => ?_
    obtain ⟨e, he, rfl⟩ := List.mem_map.mp hk
    obtain ⟨p, -, hp⟩ := List.mem_filterMap.mp he
    obtain ⟨n, hn⟩ := hf p e hp
    rw [hn]
  rw [entries, List.map_append, strings_append, hints, List.nil_append]
  · exact (List.filter_sublist.map _).filterMap _
  · intro p e hp
    dsimp only at hp
    split at hp
    · cases hp
    · cases hp
      exact ⟨_, rfl⟩

/-! ### Setting a value -/

theorem slots_place (t : Table) (key value : Value) :
    (t.place key value).slots.toList.Sublist (t.slots.toList ++ [(key, value)]) := by
  have hadd : (t.addSlot key value).slots.toList = t.slots.toList ++ [(key, value)] := by
    rw [addSlot, Array.toList_push]
  unfold place
  split
  · split
    · exact List.sublist_append_left ..
    · exact hadd ▸ .refl _
  · exact hadd ▸ .refl _

/-- Each entry that is placed takes one slot at most. -/
theorem slots_places (es : List (Value × Value)) (t : Table) :
    (es.foldl (fun t e => t.place e.1 e.2) t).slots.toList.Sublist (t.slots.toList ++ es) := by
  induction es generalizing t with
  | nil =>
    rw [List.append_nil]
    exact .refl _
  | cons e es ih =>
    have hfirst := (slots_place t e.1 e.2).append_right es
    rw [List.append_assoc, List.singleton_append] at hfirst
    exact (ih _).trans hfirst

/-- A new layout has slots for entries only. -/
theorem slots_layout (t : Table) (length others : Nat) :
    (t.layout length others).slots.toList.Sublist t.entries :=
  slots_places t.entries _

theorem slots_grow (t : Table) (key : Value) : (t.grow key).slots.toList.Sublist t.entries :=
  slots_layout t _ _

namespace TextsOnce

/-- A slot for a key that has none. -/
theorem of_sublist (h : t.TextsOnce) (hslot : t.slot? key = none) {u : Table}
    (hu : (strings (u.slots.toList.map (·.1))).Sublist
      (strings (t.slots.toList.map (·.1) ++ [key]))) : u.TextsOnce := by
  refine List.Nodup.sublist hu ?_
  rw [strings_append, List.nodup_append]
  refine ⟨h, ?_, fun s hs s' hs' heq => ?_⟩
  · cases key with
    | str s => exact List.pairwise_singleton _ s
    | _ => exact List.nodup_nil
  · subst heq
    obtain ⟨e, he, hkey⟩ := List.mem_map.mp (mem_strings.mp hs)
    have hsame := List.mem_singleton.mp (mem_strings.mp hs')
    have hne := slot?_eq_none hslot (Array.mem_def.mpr he)
    rw [hkey, ← hsame, rawEq, (bytesEq_iff s s).mpr rfl] at hne
    cases hne

theorem putSlot (h : t.TextsOnce) (key value : Value) : (t.putSlot key value).TextsOnce := by
  unfold Table.putSlot
  split
  · rename_i i hslot
    rw [TextsOnce, keys_setSlot]
    exact h
  · rename_i hslot
    split
    · exact h
    · split
      · refine h.of_sublist hslot ?_
        rw [addSlot, Array.toList_push, List.map_append]
        exact .refl _
      · refine h.of_sublist hslot ?_
        have hplaced := (slots_place (t.grow key) key value).map (·.1)
        have hgrown := (slots_grow t key).map (·.1)
        rw [List.map_append] at hplaced
        have hentries := (strings_entries t).append_right (strings [key])
        rw [← strings_append, ← strings_append] at hentries
        exact ((hplaced.trans (hgrown.append_right [key])).filterMap _).trans hentries

/-- Setting a value for any key keeps strings apart. -/
theorem set (h : t.TextsOnce) (key value : Value) : (t.set key value).TextsOnce := by
  unfold Table.set
  generalize normalKey key = key
  unfold put
  split
  · split
    · exact h
    · exact h.putSlot _ _
  · exact h.putSlot _ _

@[grind ←]
theorem setText (h : t.TextsOnce) (key : String) (value : Value) : (t.setText key value).TextsOnce :=
  h.set (.text key) value

theorem sets (h : t.TextsOnce) (fs : List (Value × Value)) :
    (fs.foldl (fun t f => t.set f.1 f.2) t).TextsOnce := by
  induction fs generalizing t with
  | nil => exact h
  | cons f fs ih => exact ih (h.set f.1 f.2)

end TextsOnce

@[grind ←]
theorem textsOnce_ofFields (fs : List (Value × Value)) : (ofFields fs).TextsOnce :=
  (textsOnce_sized 0 fs.length).sets fs

end Table

end LuaSession.Lua
