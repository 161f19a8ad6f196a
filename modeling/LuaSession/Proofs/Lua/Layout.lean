import LuaSession.Proofs.Lua.Table

/-!
# The layout of a table

Where the keys of a table stand depends on which of its values are nil, and on nothing else about them.
So setting a value commutes with every change of the values that keeps which of them are nil.

* `Table.set_mapValues`: the law.
* `Table.emptied_mapValues`: what is left of a table that is emptied.
-/

namespace LuaSession.Lua

/-- A value changed so that only whether it is nil can be seen. -/
def Value.veiled (v : Value) : Value :=
  if v.isNil then .nil else .bool true

theorem Value.isNil_veiled (v : Value) : v.veiled.isNil = v.isNil := by
  cases v <;> rfl

namespace Table

/-- The table with its values changed. -/
def mapValues (f : Value → Value) (t : Table) : Table :=
  { t with
    row := t.row.map f
    slots := t.slots.map fun e => (e.1, f e.2) }

theorem emptied_mapValues (f : Value → Value) (t : Table) :
    (t.mapValues f).emptied = t.emptied := by
  simp only [emptied, mapValues, Array.size_map, Array.map_map, Function.comp_def]

theorem slotFrom_map (f : Value → Value) (slots : Array (Value × Value)) (key : Value)
    (fuel i : Nat) :
    slotFrom (slots.map fun e => (e.1, f e.2)) key fuel i = slotFrom slots key fuel i := by
  induction fuel generalizing i with
  | zero => rfl
  | succ fuel ih =>
    rw [slotFrom, slotFrom, Array.getElem?_map]
    cases slots[i]? with
    | none => rfl
    | some e =>
      rw [Option.map_some]
      dsimp only
      rw [ih]

theorem slot?_mapValues (f : Value → Value) (t : Table) (key : Value) :
    (t.mapValues f).slot? key = t.slot? key := by
  rw [slot?, slot?, mapValues, Array.size_map, slotFrom_map]

theorem addSlot_mapValues (f : Value → Value) (t : Table) (key value : Value) :
    (t.addSlot key value).mapValues f = (t.mapValues f).addSlot key (f value) := by
  simp only [addSlot, mapValues, Array.map_push]

theorem place_mapValues (f : Value → Value) (t : Table) (key value : Value) :
    (t.place key value).mapValues f = (t.mapValues f).place key (f value) := by
  unfold place
  split
  · simp only [mapValues, Array.size_map]
    split
    · simp only [Array.map_setIfInBounds]
    · exact addSlot_mapValues f t _ _
  · exact addSlot_mapValues f t _ _

variable {f : Value → Value} (hf : ∀ v, (f v).isNil = v.isNil)

include hf

theorem map_nil : f .nil = .nil := by
  have h := hf .nil
  cases hv : f .nil with
  | nil => rfl
  | _ =>
    rw [hv] at h
    cases h

theorem rowEntries_map (i : Nat) (row : List Value) :
    rowEntries i (row.map f) = (rowEntries i row).map fun e => (e.1, f e.2) := by
  induction row generalizing i with
  | nil => rfl
  | cons v row ih =>
    simp only [rowEntries, List.map_cons, List.zipIdx_cons, List.filterMap_cons, hf]
    cases v.isNil with
    | true => exact ih (i + 1)
    | false => exact congrArg _ (ih (i + 1))

theorem entries_mapValues (t : Table) :
    (t.mapValues f).entries = t.entries.map fun e => (e.1, f e.2) := by
  rw [entries_eq, entries_eq, mapValues, List.map_append, Array.toList_map, Array.toList_map,
    rowEntries_map hf, List.filter_map]
  simp only [Function.comp_def, hf]

theorem layout_mapValues (t : Table) (length others : Nat) :
    (t.layout length others).mapValues f = (t.mapValues f).layout length others := by
  have hplace (es : List (Value × Value)) (u : Table) :
      (es.foldl (fun u e => u.place e.1 e.2) u).mapValues f =
        (es.map fun e => (e.1, f e.2)).foldl (fun u e => u.place e.1 e.2) (u.mapValues f) := by
    induction es generalizing u with
    | nil => rfl
    | cons e es ih => rw [List.foldl_cons, ih, place_mapValues, List.map_cons, List.foldl_cons]
  rw [layout, hplace, layout, entries_mapValues hf]
  simp only [mapValues, Array.map_replicate, map_nil hf, Array.map_empty]

theorem grow_mapValues (t : Table) (key : Value) :
    (t.grow key).mapValues f = (t.mapValues f).grow key := by
  rw [grow, grow, layout_mapValues hf, entries_mapValues hf, List.foldl_map, List.length_map]

theorem putSlot_mapValues (t : Table) (key value : Value) :
    (t.putSlot key value).mapValues f = (t.mapValues f).putSlot key (f value) := by
  unfold putSlot
  rw [slot?_mapValues, hf]
  split
  · rename_i i _
    simp only [mapValues]
    congr 1
    refine Array.ext_getElem? fun j => ?_
    simp only [Array.getElem?_map, Array.getElem?_modify]
    split <;> simp [Option.map_map, Function.comp_def]
  · split
    · rfl
    · have hsize : (t.mapValues f).slots.size = t.slots.size := Array.size_map
      have hroom : (t.mapValues f).room = t.room := rfl
      rw [hsize, hroom]
      split
      · exact addSlot_mapValues f t key value
      · rw [place_mapValues, grow_mapValues hf]

theorem set_mapValues (t : Table) (key value : Value) :
    (t.set key value).mapValues f = (t.mapValues f).set key (f value) := by
  unfold set put
  split
  · have hsize : (t.mapValues f).row.size = t.row.size := Array.size_map
    rw [hsize]
    split
    · simp only [mapValues, Array.map_setIfInBounds]
    · exact putSlot_mapValues hf t _ value
  · exact putSlot_mapValues hf t _ value

end Table

end LuaSession.Lua
