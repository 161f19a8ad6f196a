import LuaSession.Proofs.Lua.Table
import LuaSession.Proofs.Session.Events

/-!
# The bindings of a session

Whatever is evaluated, the table of the bindings stays where it is and sound, so it can be emptied.

* `Session.start_sound`: the bindings of a new session are sound.
* `Session.clear_eq`: what is left when everything was unbound.
-/

namespace LuaSession

open LuaSession.Lua

/-- The policy that keeps a table sound. -/
def Lua.Policy.sound (id : Nat) : Policy where
  keeps m := ∃ t, m.tables[id]? = some t ∧ t.Sound
  allows _ := True

theorem Lua.Policy.stable_sound (id : Nat) : (sound id).Stable where
  newTable m t _ := by
    rintro ⟨u, hu, hsound⟩
    exact ⟨u, by rw [Mem.newTable, Array.getElem?_push]; grind, hsound⟩
  newFunc _ _ h := h
  newFailure _ _ h := h
  cells _ _ h := h
  frame _ _ _ h := h
  set m id' k v hk := by
    rintro ⟨u, hu, hsound⟩
    simp only [sound, Mem.rawSet, Array.getElem?_modify, hu]
    split
    · exact ⟨_, rfl, hsound.set hk⟩
    · exact ⟨u, rfl, hsound⟩
  metatable m id' mark := by
    rintro ⟨u, hu, hsound⟩
    simp only [sound, Mem.modifyTable, Array.getElem?_modify, hu]
    split
    · exact ⟨_, rfl, hsound.row, hsound.slots, hsound.outside⟩
    · exact ⟨u, rfl, hsound⟩
  random _ _ h := h
  warnings _ _ h := h
  collector _ _ h := h

/-- Two changes of a table that do the same to it. -/
theorem Lua.Mem.modifyTable_congr {m : Mem} {id : Nat} {t : Table} {f g : Table → Table}
    (ht : m.tables[id]? = some t) (h : f t = g t) : m.modifyTable id f = m.modifyTable id g := by
  have htables : m.tables.modify id f = m.tables.modify id g := by
    refine Array.ext_getElem? fun i => ?_
    rw [Array.getElem?_modify, Array.getElem?_modify]
    split
    · rename_i hsame
      rw [← hsame, ht, Option.map_some, Option.map_some, h]
    · rfl
  simp only [modifyTable, htables]

namespace Session

theorem foldl_bind (es : List (Value × Value)) (s : Session) :
    es.foldl (fun s e => s.bind e.1 .nil) s =
      { s with mem := s.mem.modifyTable s.bindings fun t => es.foldl Table.unset t } := by
  induction es generalizing s with
  | nil =>
    simp only [List.foldl_nil, Mem.modifyTable_id]
  | cons e es ih =>
    rw [List.foldl_cons, ih]
    change { s with mem := ((s.mem.modifyTable s.bindings fun t => t.unset e).modifyTable
      s.bindings _) } = _
    rw [Mem.modifyTable_modifyTable]
    rfl

/-- The bindings of the session are a sound table. -/
def Sound (s : Session) : Prop := (Policy.sound s.bindings).keeps s.mem

variable {s : Session}

/-- When everything was unbound, the keys of the bindings are left without values, and the rest of the
session as it was. -/
theorem clear_eq (h : s.Sound) :
    s.clear = { s with mem := s.mem.modifyTable s.bindings Table.emptied, text := "" } := by
  obtain ⟨t, ht, hsound⟩ := h
  have hentries : s.entries = t.entries := by
    rw [entries, Mem.table, Array.getD_eq_getD_getElem?, ht]
    rfl
  rw [clear, foldl_bind, Mem.modifyTable_congr ht (hentries ▸ hsound.unset_entries)]

/-- Where everything was unbound, no key has a value. -/
theorem rawGet_clear (h : s.Sound) (key : Value) :
    s.clear.mem.rawGet s.clear.bindings key = .nil := by
  obtain ⟨t, ht, -⟩ := id h
  rw [clear_bindings, clear_eq h, Mem.rawGet, Mem.modifyTable, Array.getElem?_modify, if_pos rfl, ht]
  exact Table.get_emptied t key

theorem entries_clear (h : s.Sound) : s.clear.entries = [] := by
  obtain ⟨t, ht, -⟩ := id h
  rw [entries, clear_bindings, clear_eq h, Mem.table, Mem.modifyTable, Array.getD_eq_getD_getElem?,
    Array.getElem?_modify, if_pos rfl, ht]
  exact Table.entries_emptied t

/-! ### New sessions -/

/-- A new table in front of another is sound. -/
theorem behind_sound (m : Mem) (other : Value) :
    (Policy.sound (m.addRecord []).1).keeps
      (behind (m.addRecord []).2 (m.addRecord []).1 other) := by
  have hp := Policy.stable_sound (m.addRecord []).1
  refine hp.metatable _ _ _ (hp.newTable _ _ (Table.textsOnce_ofFields _) ?_)
  exact ⟨Table.sized 0 0, Array.getElem?_push_size, Table.sound_sized (Nat.zero_le _) 0⟩

theorem bindHost_sound (h : s.Sound) (fns : List (String × HostFn)) : (s.bindHost fns).Sound := by
  induction fns generalizing s with
  | nil => exact h
  | cons f fns ih =>
    have hp := Policy.stable_sound s.bindings
    exact ih (hp.set _ _ _ _ (Value.isKey_text _) (hp.newFunc _ _ h))

theorem start_sound {name : String} (h : start name = .ok s) : s.Sound := by
  unfold start at h
  split at h
  · cases h
  · generalize addLayer Mem.start = layer at h
    obtain ⟨layer, m⟩ := layer
    cases h
    exact bindHost_sound (s := ⟨behind _ _ _, #[.active], _, name, "", {}⟩) (behind_sound m _) _

end Session

/-- Unbinding everything keeps every table sound. -/
theorem Lua.Policy.lasting_sound (id : Nat) : (sound id).Lasting where
  toStable := stable_sound id
  allows _ _ _ := trivial
  clear s h := by
    by_cases hid : s.bindings = id
    · subst hid
      rw [Session.clear_eq h]
      obtain ⟨t, ht, hsound⟩ := h
      exact ⟨_, by rw [Mem.modifyTable, Array.getElem?_modify, if_pos rfl, ht]; rfl, hsound.emptied⟩
    · obtain ⟨t, ht, hsound⟩ := h
      refine ⟨t, ?_, hsound⟩
      rw [Session.clear, Session.foldl_bind]
      simp only [Mem.modifyTable, Array.getElem?_modify, if_neg hid, ht]

end LuaSession
