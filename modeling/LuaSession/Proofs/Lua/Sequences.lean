import Mathlib.Data.Finset.Card
import Mathlib.Order.Interval.Finset.Nat
import LuaSession.Lua.Exchange
import LuaSession.Proofs.Lua.Table

/-!
# Sequences in tables

The values under the keys 1, 2, … up to the first key without one are the sequence of a table, wherever
the table keeps them. It is read to its end: each of its keys has a place of its own, and so there are
no more of them than the table has places.

* `Table.Lists`: what the sequence of a table is.
* `Table.Lists.sequence`: it is what is read.
* `Table.lists_sequence`: every table has one, unless it is larger than there are keys.
-/

namespace LuaSession.Lua

namespace Table

/-- The table holds these values under the keys from 1 on, and none under the key after them. -/
structure Lists (t : Table) (vs : List Value) : Prop where
  size : vs.length + 1 < 0x8000000000000000
  items : ∀ i (h : i < vs.length), t.getInt (Int64.ofNat (i + 1)) = vs[i]
  filled : ∀ v ∈ vs, v.isNil = false
  border : t.getInt (Int64.ofNat (vs.length + 1)) = .nil

variable {t : Table} {vs : List Value}

/-! ### Places -/

/-- A key is equal to one integer at most. -/
theorem rawEq_int_inj {k : Value} {a b : Int64} (ha : rawEq k (.int a) = true)
    (hb : rawEq k (.int b) = true) : a = b := by
  cases k with
  | int n => exact (eq_of_beq ha).symm.trans (eq_of_beq hb)
  | float x =>
    simp only [rawEq] at ha hb
    split at ha
    · rename_i n hn
      rw [hn] at hb
      exact (eq_of_beq ha).symm.trans (eq_of_beq hb)
    · cases ha
  | nil | bool | str | table | func | thread | failure | file => simp [rawEq] at ha

/-- An integer key with a value that is not in the row has a slot. -/
theorem exists_slot {n : Int64} (h : (t.getInt n).isNil = false)
    (hrow : rowPlace? t.row.size n = none) : ∃ j, t.slot? (.int n) = some j := by
  rw [getInt, hrow] at h
  dsimp only [getSlot] at h
  split at h
  · rename_i j hj
    exact ⟨j, hj⟩
  · cases h

/-- Keys beyond the row have each a slot of their own. -/
theorem length_le {n : Nat} (hsize : n < 0x8000000000000000)
    (h : ∀ i < n, (t.getInt (Int64.ofNat (i + 1))).isNil = false) :
    n ≤ t.row.size + t.slots.size := by
  have hint {i : Nat} (hi : i < n) : (Int64.ofNat (i + 1)).toInt = i + 1 := by
    rw [Int64.toInt_ofNat_of_lt (by omega)]
    rfl
  have hslot {i : Nat} (hi : i ∈ Finset.Ico t.row.size n) :
      ∃ j, t.slot? (.int (Int64.ofNat (i + 1))) = some j := by
    rw [Finset.mem_Ico] at hi
    refine exists_slot (h i hi.2) ?_
    cases hplace : rowPlace? t.row.size (Int64.ofNat (i + 1)) with
    | none => rfl
    | some j =>
      obtain ⟨hj, hlt⟩ := rowPlace?_eq_some.mp hplace
      rw [hint hi.2] at hj
      omega
  have hcard : (Finset.Ico t.row.size n).card ≤ (Finset.range t.slots.size).card := by
    refine Finset.card_le_card_of_injOn
      (fun i => (t.slot? (.int (Int64.ofNat (i + 1)))).getD 0) (fun i hi => ?_)
      fun i hi i' hi' heq => ?_
    · obtain ⟨j, hj⟩ := hslot hi
      obtain ⟨hlt, -⟩ := slot?_eq_some hj
      dsimp only
      rw [hj]
      exact Finset.mem_coe.mpr (Finset.mem_range.mpr hlt)
    · obtain ⟨j, hj⟩ := hslot hi
      obtain ⟨j', hj'⟩ := hslot hi'
      dsimp only at heq
      rw [hj, hj', Option.getD_some, Option.getD_some] at heq
      subst heq
      obtain ⟨_, hkey, -⟩ := slot?_eq_some hj
      obtain ⟨_, hkey', -⟩ := slot?_eq_some hj'
      have hsame := congrArg Int64.toInt (rawEq_int_inj hkey hkey')
      rw [Finset.mem_coe, Finset.mem_Ico] at hi hi'
      rw [hint hi.2, hint hi'.2] at hsame
      omega
  rw [Nat.card_Ico, Finset.card_range] at hcard
  omega

/-! ### Reading a sequence -/

/-- What is read from a key on, where there are places enough or the last key is followed by one without
a value. The induction is on the number of places that are left. -/
theorem sequenceFrom_eq (hitems : ∀ i (h : i < vs.length), t.getInt (Int64.ofNat (i + 1)) = vs[i])
    (hfilled : ∀ v ∈ vs, v.isNil = false) {fuel i : Nat} (hi : i ≤ vs.length)
    (hfuel : vs.length ≤ i + fuel)
    (hborder : vs.length < i + fuel → t.getInt (Int64.ofNat (vs.length + 1)) = .nil) :
    Mem.sequenceFrom t fuel (i + 1) = vs.drop i := by
  induction fuel generalizing i with
  | zero => rw [Mem.sequenceFrom, List.drop_eq_nil_of_le (by omega)]
  | succ fuel ih =>
    rw [Mem.sequenceFrom]
    rcases Nat.eq_or_lt_of_le hi with rfl | hlt
    · rw [hborder (by omega), List.drop_length]
    · rw [hitems i hlt, ih hlt (by omega) fun h => hborder (by omega),
        List.drop_eq_getElem_cons hlt]
      split
      · rename_i hnil
        have hv := hfilled vs[i] (List.getElem_mem hlt)
        rw [hnil] at hv
        cases hv
      · rfl

/-- The values that a table lists are what is read as its sequence. -/
theorem Lists.sequence (h : t.Lists vs) : Mem.sequence t = vs := by
  have hsize := h.size
  have hlength : vs.length ≤ t.row.size + t.slots.size := by
    refine length_le (by omega) fun i hi => ?_
    rw [h.items i hi]
    exact h.filled _ (List.getElem_mem hi)
  have hread := sequenceFrom_eq h.items h.filled (Nat.zero_le _)
    (hlength.trans (Nat.le_add_left _ 0)) fun _ => h.border
  rw [List.drop_zero] at hread
  exact hread

/-- What is read from a key on: values under the keys that follow, up to one that has none or until no
place is left. -/
theorem sequenceFrom_lists (t : Table) (fuel i : Nat) :
    (∀ j (h : j < (Mem.sequenceFrom t fuel (i + 1)).length),
        t.getInt (Int64.ofNat (i + j + 1)) = (Mem.sequenceFrom t fuel (i + 1))[j]) ∧
      (∀ v ∈ Mem.sequenceFrom t fuel (i + 1), v.isNil = false) ∧
      (Mem.sequenceFrom t fuel (i + 1)).length ≤ fuel ∧
      ((Mem.sequenceFrom t fuel (i + 1)).length < fuel →
        t.getInt (Int64.ofNat (i + (Mem.sequenceFrom t fuel (i + 1)).length + 1)) = .nil) := by
  induction fuel generalizing i with
  | zero => exact ⟨nofun, nofun, Nat.le_refl 0, fun h => absurd h (Nat.lt_irrefl 0)⟩
  | succ fuel ih =>
    obtain ⟨hitems, hfilled, hle, hborder⟩ := ih (i + 1)
    rw [Mem.sequenceFrom]
    split
    · rename_i hnil
      exact ⟨nofun, nofun, Nat.zero_le _, fun _ => hnil⟩
    · rename_i hne
      refine ⟨fun j hj => ?_, List.forall_mem_cons.mpr ⟨?_, hfilled⟩, Nat.succ_le_succ hle,
        fun hlt => ?_⟩
      · cases j with
        | zero => rfl
        | succ j =>
          rw [List.getElem_cons_succ, ← hitems j (Nat.lt_of_succ_lt_succ hj)]
          exact congrArg (fun k => t.getInt (Int64.ofNat k)) (by omega)
      · cases hv : t.getInt (Int64.ofNat (i + 1)) with
        | nil => exact absurd hv hne
        | _ => rfl
      · rw [List.length_cons] at hlt ⊢
        rw [← hborder (Nat.lt_of_succ_lt_succ hlt)]
        exact congrArg (fun k => t.getInt (Int64.ofNat k)) (by omega)

/-- What is read as the sequence of a table is listed by it, if the table has fewer places than there are
keys. -/
theorem lists_sequence (hsize : t.row.size + t.slots.size + 1 < 0x8000000000000000) :
    t.Lists (Mem.sequence t) := by
  obtain ⟨hitems, hfilled, hle, hborder⟩ := sequenceFrom_lists t (t.row.size + t.slots.size) 0
  simp only [Nat.zero_add] at hitems hfilled hle hborder
  change ∀ j (h : j < (Mem.sequence t).length), _ = (Mem.sequence t)[j] at hitems
  change (Mem.sequence t).length ≤ _ at hle
  change (Mem.sequence t).length < _ → t.getInt (Int64.ofNat ((Mem.sequence t).length + 1)) = _
    at hborder
  refine ⟨by omega, hitems, hfilled, ?_⟩
  rcases Nat.eq_or_lt_of_le hle with heq | hlt
  · -- All places are used up, so there is none for the next key.
    by_contra hnext
    have hall : ∀ i < (Mem.sequence t).length + 1,
        (t.getInt (Int64.ofNat (i + 1))).isNil = false := by
      intro i hi
      rcases Nat.eq_or_lt_of_le (Nat.le_of_lt_succ hi) with rfl | hi
      · cases hv : t.getInt (Int64.ofNat ((Mem.sequence t).length + 1)) with
        | nil => exact absurd hv hnext
        | _ => rfl
      · rw [hitems i hi]
        exact hfilled _ (List.getElem_mem hi)
    have hmore := length_le (by omega) hall
    omega
  · exact hborder hlt

end Table

end LuaSession.Lua
