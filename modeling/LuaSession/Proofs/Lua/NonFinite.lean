import Mathlib.Algebra.BigOperators.Group.Finset.Basic
import Mathlib.Logic.Relation
import LuaSession.Proofs.Json.Figures
import LuaSession.Proofs.Lua.Parts

/-!
# Numbers that are not finite

A value from which a number that is not finite can be reached has no JSON form. The tables of a value are
walked for that, each at most once: a table is marked before what it holds was looked at, so a way through
a marked table is not followed. Nothing is missed by that, because what the marked table holds is still
among the values to look at; a way that comes back to a table can do without the detour.

* `Mem.Holds`: what a table holds, as a key or as a value; what is reached goes on from there.
* `Mem.Search`: one walk, with the tables that were opened and the number of looks.
* `Mem.Search.found_iff`: what is found, whatever was opened before.
* `Mem.reachesNonFinite_search`: the walk that is made, and how long it is at most.
* `Mem.hasNonFinite_finds`: a number that is not finite is found just if one is reached, and none becomes
  the null of a JSON form.
-/

namespace LuaSession

open Relation

namespace Json

/-- What stands in a value: the value itself, and what stands in an item or in the value of a field. -/
inductive Within : Json → Json → Prop
  | refl (j : Json) : Within j j
  | item {items : List Json} {i part : Json} : i ∈ items → Within i part → Within (.arr items) part
  | field {fields : List (String × Json)} {f : String × Json} {part : Json} :
      f ∈ fields → Within f.2 part → Within (.obj fields) part

end Json

namespace Lua.Mem

variable {m : Mem}

/-! ### What is reached -/

/-- A table holds its keys and their values. -/
def Holds (m : Mem) (v w : Value) : Prop :=
  ∃ id, v = .table id ∧ ∃ e ∈ (m.table id).entries, w = e.1 ∨ w = e.2

/-- A table holds something, and it is none of those that were opened. -/
def HoldsApart (m : Mem) (opened : List Nat) (v w : Value) : Prop :=
  m.Holds v w ∧ ∀ id ∈ opened, v ≠ .table id

theorem mem_contents {id : Nat} {w : Value} :
    w ∈ m.contents id ↔ ∃ e ∈ (m.table id).entries, w = e.1 ∨ w = e.2 := by
  unfold contents
  rw [List.mem_flatMap]
  exact exists_congr fun e => and_congr_right fun _ => by simp

theorem holds_table {id : Nat} {w : Value} : m.Holds (.table id) w ↔ w ∈ m.contents id := by
  rw [mem_contents]
  constructor
  · rintro ⟨_, heq, hentry⟩
    cases heq
    exact hentry
  · exact fun hentry => ⟨id, rfl, hentry⟩

section Reached

variable {opened : List Nat} {id : Nat} {v w : Value}

theorem holdsApart_nil : m.HoldsApart [] = m.Holds := by
  funext v w
  exact propext ⟨And.left, fun h => ⟨h, fun _ hid => absurd hid List.not_mem_nil⟩⟩

theorem HoldsApart.weaken (h : ReflTransGen (m.HoldsApart (id :: opened)) v w) :
    ReflTransGen (m.HoldsApart opened) v w :=
  ReflTransGen.mono (fun _ _ hstep => ⟨hstep.1, (List.forall_mem_cons.mp hstep.2).2⟩) v w h

/-- **Ways through a table.** What is reached without the opened tables is reached without one more of
them, or it is so from something that this one holds: the last visit counts. -/
theorem reached_apart (h : ReflTransGen (m.HoldsApart opened) v w) (id : Nat) :
    ReflTransGen (m.HoldsApart (id :: opened)) v w ∨
      ∃ c ∈ m.contents id, ReflTransGen (m.HoldsApart (id :: opened)) c w := by
  induction h using ReflTransGen.head_induction_on with
  | refl => exact .inl .refl
  | @head a b hstep _ ih =>
    rcases ih with hrest | hinside
    · by_cases ha : a = .table id
      · rw [ha] at hstep
        exact .inr ⟨b, holds_table.mp hstep.1, hrest⟩
      · exact .inl (.head ⟨hstep.1, List.forall_mem_cons.mpr ⟨ha, hstep.2⟩⟩ hrest)
    · exact .inr hinside

/-- From what is no table, and from an opened table, nothing else is reached. -/
theorem reached_closed (h : ∀ id, v = .table id → id ∈ opened) :
    ReflTransGen (m.HoldsApart opened) v w ↔ w = v := by
  refine reflTransGen_iff_eq ?_
  rintro b ⟨⟨id, rfl, -⟩, hapart⟩
  exact hapart id (h id rfl) rfl

end Reached

/-! ### The walk -/

/-- A walk through values for a number that is not finite: which tables were opened, which values are to
be looked at, how many looks are taken, and whether one is found. The walk ends as soon as one is. -/
inductive Search (m : Mem) : (opened : List Nat) → (work : List Value) → (looks : Nat) → (found : Bool) →
    Prop
  | done {opened : List Nat} : Search m opened [] 0 false
  | found {opened : List Nat} {x : Float} {rest : List Value} :
      Number.isFinite x = false → Search m opened (.float x :: rest) 1 true
  | finite {opened : List Nat} {x : Float} {rest : List Value} {n : Nat} {b : Bool} :
      Number.isFinite x = true → Search m opened rest n b → Search m opened (.float x :: rest) (n + 1) b
  | enter {opened : List Nat} {id : Nat} {rest : List Value} {n : Nat} {b : Bool} :
      id ∉ opened → Search m (id :: opened) (m.contents id ++ rest) n b →
      Search m opened (.table id :: rest) (n + 1) b
  | again {opened : List Nat} {id : Nat} {rest : List Value} {n : Nat} {b : Bool} :
      id ∈ opened → Search m opened rest n b → Search m opened (.table id :: rest) (n + 1) b
  | other {opened : List Nat} {v : Value} {rest : List Value} {n : Nat} {b : Bool} :
      (∀ x, v ≠ .float x) → (∀ id, v ≠ .table id) → Search m opened rest n b →
      Search m opened (v :: rest) (n + 1) b

/-- A number that is not finite is reached without the opened tables. -/
def Leaks (m : Mem) (opened : List Nat) (v : Value) : Prop :=
  ∃ x, Number.isFinite x = false ∧ ReflTransGen (m.HoldsApart opened) v (.float x)

section Leaks

variable {opened : List Nat} {id : Nat} {v : Value} {rest : List Value}

theorem leaks_float {x : Float} : m.Leaks opened (.float x) ↔ Number.isFinite x = false := by
  constructor
  · rintro ⟨y, hy, hreach⟩
    cases (reached_closed (fun id h => Value.noConfusion h)).mp hreach
    exact hy
  · exact fun hx => ⟨x, hx, .refl⟩

theorem not_leaks_closed (hfloat : ∀ x, v ≠ .float x) (htable : ∀ id, v = .table id → id ∈ opened) :
    ¬m.Leaks opened v := by
  rintro ⟨x, -, hreach⟩
  exact hfloat x ((reached_closed htable).mp hreach).symm

/-- Opening a table loses nothing, as long as what it holds is looked at. -/
theorem leaks_enter (hid : id ∉ opened) :
    (∃ v ∈ Value.table id :: rest, m.Leaks opened v) ↔
      ∃ v ∈ m.contents id ++ rest, m.Leaks (id :: opened) v := by
  constructor
  · rintro ⟨v, hv, x, hx, hreach⟩
    rcases reached_apart hreach id with hapart | ⟨c, hc, hinside⟩
    · rcases List.mem_cons.mp hv with rfl | hv
      · -- The table itself is closed now, and it is no number.
        have hclosed := (reached_closed fun _ h => by cases h; exact List.mem_cons_self).mp hapart
        cases hclosed
      · exact ⟨v, List.mem_append_right _ hv, x, hx, hapart⟩
    · exact ⟨c, List.mem_append_left _ hc, x, hx, hinside⟩
  · rintro ⟨v, hv, x, hx, hreach⟩
    rcases List.mem_append.mp hv with hv | hv
    · have hapart : ∀ id' ∈ opened, Value.table id ≠ .table id' := by
        intro id' hid' heq
        cases heq
        exact hid hid'
      exact ⟨.table id, List.mem_cons_self, x, hx, .head ⟨holds_table.mpr hv, hapart⟩ (HoldsApart.weaken hreach)⟩
    · exact ⟨v, List.mem_cons_of_mem _ hv, x, hx, HoldsApart.weaken hreach⟩

/-- What a walk finds: a number is found just if one is reached from what is to be looked at, without the
tables that were opened. The induction is on the walk; only where a table is opened it changes what is
reached. -/
theorem Search.found_iff {work : List Value} {n : Nat} {b : Bool} (h : m.Search opened work n b) :
    b = true ↔ ∃ v ∈ work, m.Leaks opened v := by
  induction h with
  | done => simp
  | found hx => exact iff_of_true rfl ⟨_, List.mem_cons_self, leaks_float.mpr hx⟩
  | @finite opened x rest n b hx _ ih =>
    have hhead : ¬m.Leaks opened (.float x) := by
      rw [leaks_float, hx]
      exact Bool.noConfusion
    rw [ih, List.exists_mem_cons_iff, or_iff_right hhead]
  | enter hid _ ih => rw [ih, leaks_enter hid]
  | @again opened id rest n b hid _ ih =>
    have hhead : ¬m.Leaks opened (.table id) :=
      not_leaks_closed (fun _ h => Value.noConfusion h) fun _ h => by
        cases h
        exact hid
    rw [ih, List.exists_mem_cons_iff, or_iff_right hhead]
  | @other opened v rest n b hfloat htable _ ih =>
    have hhead : ¬m.Leaks opened v := not_leaks_closed hfloat fun id h => absurd h (htable id)
    rw [ih, List.exists_mem_cons_iff, or_iff_right hhead]

end Leaks

/-! ### The walk that is made -/

/-- How many keys and values there are in the tables that were not opened. -/
def unopened (m : Mem) (opened : List Nat) : Nat :=
  ∑ id ∈ Finset.range m.tables.size \ opened.toFinset, (m.contents id).length

section Walk

variable {opened : List Nat} {id : Nat}

theorem contents_beyond (h : m.tables.size ≤ id) : m.contents id = [] := by
  rw [contents, table, Array.getD_eq_getD_getElem?, Array.getElem?_eq_none h]
  rfl

/-- A table that is opened takes what it holds from the rest. -/
theorem unopened_enter (h : id ∉ opened) :
    (m.contents id).length + m.unopened (id :: opened) = m.unopened opened := by
  unfold unopened
  rw [List.toFinset_cons, Finset.sdiff_insert]
  by_cases hid : id < m.tables.size
  · have hmem : id ∈ Finset.range m.tables.size \ opened.toFinset :=
      Finset.mem_sdiff.mpr ⟨Finset.mem_range.mpr hid, fun hmem => h (List.mem_toFinset.mp hmem)⟩
    exact Finset.add_sum_erase _ (fun id => (m.contents id).length) hmem
  · rw [contents_beyond (Nat.le_of_not_lt hid), Finset.erase_eq_of_notMem, List.length_nil, Nat.zero_add]
    exact fun hmem => hid (Finset.mem_range.mp (Finset.mem_sdiff.mp hmem).1)

/-- The marks are those of the tables that were opened. -/
structure Marks (m : Mem) (seen : Array Bool) (opened : List Nat) : Prop where
  size : seen.size = m.tables.size
  marked : ∀ id (h : id < seen.size), seen[id] = true ↔ id ∈ opened

theorem Marks.enter {seen : Array Bool} (h : m.Marks seen opened) (hid : id < seen.size) :
    m.Marks (seen.set id true hid) (id :: opened) where
  size := by rw [Array.size_set, h.size]
  marked := by
    intro i hi
    rw [Array.size_set] at hi
    rw [Array.getElem_set, List.mem_cons]
    by_cases heq : id = i
    · simp [heq]
    · rw [if_neg heq, h.marked i hi]
      simp [Ne.symm heq]

/-- What is not there holds nothing, so it makes no difference whether it is opened. -/
theorem Marks.beyond {seen : Array Bool} (h : m.Marks seen opened) (hid : ¬id < seen.size) :
    m.Marks seen (id :: opened) where
  size := h.size
  marked := by
    intro i hi
    rw [h.marked i hi, List.mem_cons, or_iff_right]
    rintro rfl
    exact hid hi

/-- The walk that is made is a search, and takes no more looks than there are values to look at and keys
and values in tables that were not opened. -/
theorem reachesNonFinite_search {seen : Array Bool} {work : List Value} (h : m.Marks seen opened) :
    ∃ n ≤ work.length + m.unopened opened, m.Search opened work n (m.reachesNonFinite seen work) := by
  fun_induction reachesNonFinite m seen work generalizing opened with
  | case1 seen => exact ⟨0, Nat.zero_le _, .done⟩
  | case2 seen x rest ih =>
    cases hx : Number.isFinite x with
    | false => exact ⟨1, by simp; omega, .found hx⟩
    | true =>
      obtain ⟨n, hn, hsearch⟩ := ih h
      refine ⟨n + 1, by simp; omega, .finite hx ?_⟩
      rwa [Bool.not_true, Bool.false_or]
  | case3 seen id rest hid hseen ih =>
    have hout : id ∉ opened := by
      rw [← h.marked id hid, hseen]
      exact Bool.false_ne_true
    obtain ⟨n, hn, hsearch⟩ := ih (h.enter hid)
    have hrest := unopened_enter (m := m) hout
    rw [List.length_append] at hn
    exact ⟨n + 1, by rw [List.length_cons]; omega, .enter hout hsearch⟩
  | case4 seen id rest hid hseen ih =>
    obtain ⟨n, hn, hsearch⟩ := ih h
    have hin : id ∈ opened := (h.marked id hid).mp (Bool.not_eq_false _ ▸ hseen)
    exact ⟨n + 1, by rw [List.length_cons]; omega, .again hin hsearch⟩
  | case5 seen id rest hid ih =>
    by_cases hin : id ∈ opened
    · obtain ⟨n, hn, hsearch⟩ := ih h
      exact ⟨n + 1, by rw [List.length_cons]; omega, .again hin hsearch⟩
    · -- There is no such table, so opening it adds nothing to look at.
      obtain ⟨n, hn, hsearch⟩ := ih (h.beyond hid)
      have hnone : m.contents id = [] := contents_beyond (by rw [← h.size]; exact Nat.le_of_not_lt hid)
      have hrest := unopened_enter (m := m) hin
      rw [hnone, List.length_nil, Nat.zero_add] at hrest
      refine ⟨n + 1, by rw [List.length_cons]; omega, .enter hin ?_⟩
      rwa [hnone]
  | case6 seen v rest hfloat htable ih =>
    obtain ⟨n, hn, hsearch⟩ := ih h
    exact ⟨n + 1, by rw [List.length_cons]; omega, .other hfloat htable hsearch⟩

/-- Nothing is marked at first. -/
theorem marks_none (m : Mem) : m.Marks (Array.replicate m.tables.size false) [] where
  size := Array.size_replicate
  marked := by
    intro id hid
    simp

end Walk

/-! ### The JSON form -/

section Form

variable {fuel : Nat} {path : List Nat} {id : Nat} {v : Value} {j part : Json}

/-- Each of some values is paired with one on the other side. -/
theorem exists_paired {α β : Type} {R : α → β → Prop} {xs : List α} {ys : List β}
    (h : List.Forall₂ R xs ys) {y : β} (hy : y ∈ ys) : ∃ x ∈ xs, R x y := by
  induction h with
  | nil => cases hy
  | cons hxy _ ih =>
    rcases List.mem_cons.mp hy with rfl | hy
    · exact ⟨_, List.mem_cons_self, hxy⟩
    · obtain ⟨x, hx, hpair⟩ := ih hy
      exact ⟨x, List.mem_cons_of_mem _ hx, hpair⟩

/-- What stands in the sequence of a table is held by it, and is not nil. -/
theorem holds_sequence {w : Value} (h : w ∈ sequence (m.table id)) :
    m.Holds (.table id) w ∧ w.isNil = false := by
  obtain ⟨hitems, hfilled, -⟩ := Table.sequenceFrom_lists (m.table id) _ 0
  have hw := hfilled w h
  obtain ⟨i, hi, rfl⟩ := List.getElem_of_mem h
  have hget : (m.table id).get (.int (Int64.ofNat (0 + i + 1))) = (sequence (m.table id))[i] := hitems i hi
  rw [← hget] at hw
  obtain ⟨e, he, -, hvalue⟩ := Table.entry_of_get rfl hw
  rw [hget] at hvalue hw
  exact ⟨⟨id, rfl, e, he, .inr hvalue.symm⟩, hw⟩

/-- No entry of a table has nil for its value. -/
theorem entry_filled {e : Value × Value} (h : e ∈ (m.table id).entries) : e.2.isNil = false := by
  rw [Table.entries_eq] at h
  rcases List.mem_append.mp h with hrow | hslot
  · obtain ⟨i, w, -, hw, rfl⟩ := Table.mem_rowEntries_iff.mp hrow
    exact hw
  · simpa using (List.mem_filter.mp hslot).2

theorem holds_entry {e : Value × Value} (h : e ∈ (m.table id).entries) :
    m.Holds (.table id) e.2 ∧ e.2.isNil = false :=
  ⟨⟨id, rfl, e, h, .inr rfl⟩, entry_filled h⟩

/-- An item of an array is the form of something that the table holds. -/
theorem held_of_item {items : List Json} {i : Json} (h : m.jsonFrom fuel path v = some (.arr items))
    (hi : i ∈ items) :
    ∃ fuel' path' w, m.Holds v w ∧ w.isNil = false ∧ m.jsonFrom fuel' path' w = some i := by
  cases shows_of_jsonFrom h with
  | array id =>
    obtain ⟨fuel', path', ⟨-, _, heq, hitems⟩ | ⟨-, _, heq, -⟩⟩ := jsonFrom_table_eq h
    · cases heq
      obtain ⟨w, hw, hform⟩ := exists_paired hitems hi
      obtain ⟨hholds, hfilled⟩ := holds_sequence hw
      exact ⟨fuel', path', w, hholds, hfilled, hform⟩
    · cases heq

/-- The value of a field is the form of something that the table holds. -/
theorem held_of_field {fields : List (String × Json)} {f : String × Json}
    (h : m.jsonFrom fuel path v = some (.obj fields)) (hf : f ∈ fields) :
    ∃ fuel' path' w, m.Holds v w ∧ w.isNil = false ∧ m.jsonFrom fuel' path' w = some f.2 := by
  cases shows_of_jsonFrom h with
  | object id =>
    obtain ⟨fuel', path', ⟨-, _, heq, -⟩ | ⟨-, _, heq, hfields⟩⟩ := jsonFrom_table_eq h
    · cases heq
    · have hmem := Json.mem_ofFields heq.symm hf
      obtain ⟨e, he, hform⟩ := exists_paired hfields hmem
      obtain ⟨hholds, hfilled⟩ := holds_entry he
      exact ⟨fuel', path', e.2, hholds, hfilled, (key_of_field hform).2⟩

/-- Whatever stands in the JSON form of a value is the form of something that is reached, and that is not
nil unless it is the value itself. -/
theorem reached_of_within (hin : j.Within part) (h : m.jsonFrom fuel path v = some j) :
    ∃ fuel' path' w, ReflTransGen m.Holds v w ∧ (w = v ∨ w.isNil = false) ∧
      m.jsonFrom fuel' path' w = some part := by
  induction hin generalizing fuel path v with
  | refl j => exact ⟨fuel, path, v, .refl, .inl rfl, h⟩
  | item hi _ ih =>
    obtain ⟨_, _, c, hholds, hc, hform⟩ := held_of_item h hi
    obtain ⟨fuel', path', w, hreach, hw, hpart⟩ := ih hform
    exact ⟨fuel', path', w, .head hholds hreach, .inr (hw.elim (fun h => h ▸ hc) id), hpart⟩
  | field hf _ ih =>
    obtain ⟨_, _, c, hholds, hc, hform⟩ := held_of_field h hf
    obtain ⟨fuel', path', w, hreach, hw, hpart⟩ := ih hform
    exact ⟨fuel', path', w, .head hholds hreach, .inr (hw.elim (fun h => h ▸ hc) id), hpart⟩

end Form

/-- **Numbers that are not finite.** Looking for one ends, with no more looks than there are keys and
values in all tables and one for the value itself. One is found just if it is reached from the value
through keys and values of tables. So nothing in the JSON form of a value is written as null, unless the
value is nil. -/
theorem hasNonFinite_finds (m : Mem) (v : Value) :
    (∃ n ≤ 1 + m.unopened [], m.Search [] [v] n (m.hasNonFinite v)) ∧
      (m.hasNonFinite v = true ↔
        ∃ x, Number.isFinite x = false ∧ ReflTransGen m.Holds v (.float x)) ∧
      ∀ j, m.json? v = some j → ∀ part, j.Within part → part.chars = "null".toList → v = .nil := by
  obtain ⟨n, hn, hsearch⟩ : ∃ n ≤ [v].length + m.unopened [], m.Search [] [v] n (m.hasNonFinite v) :=
    reachesNonFinite_search m.marks_none
  have hfinds : m.hasNonFinite v = true ↔
      ∃ x, Number.isFinite x = false ∧ ReflTransGen m.Holds v (.float x) := by
    have hiff := hsearch.found_iff
    rw [List.exists_mem_cons_iff, or_iff_left (by simp), Leaks, holdsApart_nil] at hiff
    exact hiff
  refine ⟨⟨n, hn, hsearch⟩, hfinds, fun j hj part hin hnull => ?_⟩
  unfold json? at hj
  split at hj
  · cases hj
  · rename_i hfinite
    obtain ⟨_, _, w, hreach, hw, hform⟩ := reached_of_within hin hj
    rcases Json.chars_null.mp hnull with rfl | ⟨x, rfl, hx⟩
    · cases shows_of_jsonFrom hform
      rcases hw with rfl | hw
      · rfl
      · cases hw
    · cases shows_of_jsonFrom hform
      exact absurd (hfinds.mpr ⟨x, hx, hreach⟩) hfinite

end Lua.Mem

end LuaSession
