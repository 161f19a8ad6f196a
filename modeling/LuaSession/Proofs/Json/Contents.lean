import LuaSession.Proofs.Json.RoundTrip

/-!
# What stands inside a value that is read

The items of an array that is read and the values of the fields of an object that is read were read
themselves, one level less deep. So they are again of the form that values have that are read.

* `Value.item`, `Value.field`: the texts of items and of the values of fields.
* `Value.exact`: what is read is exact if all its numbers are integers.
* `Value.depth_le`: how deep it nests.
* `Text.unique`: a text says one value.
-/

namespace LuaSession.Json

mutual

/-- Every number is an integer. -/
def Integral : Json → Prop
  | .null | .bool _ | .int _ | .str _ => True
  | .float _ => False
  | .arr items => IntegralItems items
  | .obj fields => IntegralFields fields

/-- Every number in the items of an array is an integer. -/
def IntegralItems : List Json → Prop
  | [] => True
  | v :: vs => v.Integral ∧ IntegralItems vs

/-- Every number in the values of fields is an integer. -/
def IntegralFields : List (String × Json) → Prop
  | [] => True
  | (_, v) :: fs => v.Integral ∧ IntegralFields fs

end

/-! ### Items and fields -/

theorem integralItems_iff {vs : List Json} : IntegralItems vs ↔ ∀ v ∈ vs, v.Integral := by
  induction vs with
  | nil => exact iff_of_true trivial (List.forall_mem_nil _)
  | cons v vs ih => rw [IntegralItems, ih, List.forall_mem_cons]

theorem integralFields_iff {fs : List (String × Json)} :
    IntegralFields fs ↔ ∀ f ∈ fs, f.2.Integral := by
  induction fs with
  | nil => exact iff_of_true trivial (List.forall_mem_nil _)
  | cons f fs ih => rw [IntegralFields, ih, List.forall_mem_cons]

theorem exactItems_iff {vs : List Json} : ExactItems vs ↔ ∀ v ∈ vs, v.Exact := by
  induction vs with
  | nil => exact iff_of_true trivial (List.forall_mem_nil _)
  | cons v vs ih => rw [ExactItems, ih, List.forall_mem_cons]

theorem exactFields_iff {fs : List (String × Json)} : ExactFields fs ↔ ∀ f ∈ fs, f.2.Exact := by
  induction fs with
  | nil => exact iff_of_true trivial (List.forall_mem_nil _)
  | cons f fs ih => rw [ExactFields, ih, List.forall_mem_cons]

theorem depthItems_le {vs : List Json} {d : Nat} : depthItems vs ≤ d ↔ ∀ v ∈ vs, v.depth ≤ d := by
  induction vs with
  | nil => exact iff_of_true (Nat.zero_le d) (List.forall_mem_nil _)
  | cons v vs ih => rw [depthItems, Nat.max_le, ih, List.forall_mem_cons]

theorem depthFields_le {fs : List (String × Json)} {d : Nat} :
    depthFields fs ≤ d ↔ ∀ f ∈ fs, f.2.depth ≤ d := by
  induction fs with
  | nil => exact iff_of_true (Nat.zero_le d) (List.forall_mem_nil _)
  | cons f fs ih => rw [depthFields, Nat.max_le, ih, List.forall_mem_cons]

/-- What is found under a key stands among the fields. -/
theorem mem_of_lookup {key : String} {fs : List (String × Json)} {v : Json}
    (h : lookup key fs = some v) : (key, v) ∈ fs := by
  induction fs with
  | nil => cases h
  | cons f fs ih =>
    rw [lookup] at h
    split at h
    · rename_i heq
      cases heq
      cases h
      exact List.mem_cons_self
    · exact List.mem_cons_of_mem _ (ih h)

/-- A field of which there is one with its key is found in the object that is made. -/
theorem lookup_ofFields {fs gs : List (String × Json)} (h : ofFields fs = .obj gs)
    (hkeys : (fs.map (·.1)).Nodup) {key : String} {v : Json} (hmem : (key, v) ∈ fs) :
    lookup key gs = some v := by
  obtain ⟨before, after, rfl⟩ := List.append_of_mem hmem
  refine lookup_last (fun f hf hkey => ?_) h
  rw [List.map_append, List.map_cons] at hkeys
  have hnew : key ∉ after.map (·.1) := (List.nodup_cons.mp (List.nodup_append.mp hkeys).2.1).1
  exact hnew (hkey ▸ List.mem_map_of_mem hf)

/-! ### Texts inside a text -/

section

variable {depth : Nat} {t : List Char} {v : Json} {vs : List Json} {fs : List (String × Json)}

theorem Scalar.depth_eq (h : Scalar t v) : v.depth = 0 := by
  cases h with
  | null | true | false | string => rfl
  | positive _ h | negative _ h => obtain ⟨x, rfl⟩ | ⟨k, rfl, -⟩ := number_numeric h <;> rfl

theorem Scalar.exact (h : Scalar t v) (hv : v.Integral) : v.Exact := by
  cases h with
  | null | true | false | string => trivial
  | positive _ h | negative _ h =>
    obtain ⟨x, rfl⟩ | ⟨k, rfl, hk⟩ := number_numeric h
    · exact hv.elim
    · exact hk

/-- The items of an array have texts of their own. -/
theorem Value.item (h : Value depth t (.arr vs)) (hv : v ∈ vs) :
    ∃ below u, depth = below + 1 ∧ Value below u v := by
  cases depth with
  | zero => cases Scalar.depth_eq h
  | succ below =>
    obtain h | h := h
    · cases h.depth_eq
    · cases h with
      | array h =>
        obtain ⟨u, hu, -⟩ := h.text_of_mem hv
        exact ⟨below, u, rfl, hu⟩

/-- An object is made of the fields that stand in its text. -/
theorem Value.object (h : Value depth t (.obj fs)) :
    ∃ below u gs, depth = below + 1 ∧ Elements (Field (Value below)) u gs ∧
      ofFields gs = .obj fs := by
  cases depth with
  | zero => cases Scalar.depth_eq h
  | succ below =>
    obtain h | h := h
    · cases h.depth_eq
    · generalize hobj : Json.obj fs = w at h
      cases h with
      | array => cases hobj
      | object h => exact ⟨below, _, _, rfl, h, rfl⟩

/-- The values of the fields of an object have texts of their own. -/
theorem Value.field (h : Value depth t (.obj fs)) {f : String × Json} (hf : f ∈ fs) :
    ∃ below u, depth = below + 1 ∧ Value below u f.2 := by
  obtain ⟨below, _, gs, hdepth, hgs, hobj⟩ := h.object
  obtain ⟨-, ⟨-, -, -, -, u, -, -, -, hu, -⟩, -⟩ := hgs.text_of_mem (mem_ofFields hobj hf)
  exact ⟨below, u, hdepth, hu⟩

theorem Value.sorted (h : Value depth t (.obj fs)) : fs.Pairwise fun f g => f.1 < g.1 := by
  obtain ⟨_, _, _, -, -, hobj⟩ := h.object
  exact ofFields_pairwise hobj

/-- An integer that is read has 64 bits. -/
theorem Value.bounds {k : Int} (h : Value depth t (.int k)) :
    -0x8000000000000000 ≤ k ∧ k < 0x10000000000000000 := by
  cases depth with
  | zero => exact Scalar.exact h trivial
  | succ below =>
    obtain h | h := h
    · exact h.exact trivial
    · generalize hint : Json.int k = w at h
      cases h with
      | array | object => cases hint

/-- The induction is on how deep arrays and objects may nest. -/
theorem Value.depth_le (h : Value depth t v) : v.depth ≤ depth := by
  induction depth generalizing t v with
  | zero => exact Nat.le_of_eq (Scalar.depth_eq h)
  | succ below ih =>
    cases v with
    | arr vs =>
      refine Nat.succ_le_succ (depthItems_le.mpr fun v hv => ?_)
      obtain ⟨_, u, hbelow, hu⟩ := h.item hv
      cases hbelow
      exact ih hu
    | obj fs =>
      refine Nat.succ_le_succ (depthFields_le.mpr fun f hf => ?_)
      obtain ⟨_, u, hbelow, hu⟩ := h.field hf
      cases hbelow
      exact ih hu
    | null | bool | int | float | str => exact Nat.zero_le _

/-- The induction is on how deep arrays and objects may nest. -/
theorem Value.exact (h : Value depth t v) (hv : v.Integral) : v.Exact := by
  induction depth generalizing t v with
  | zero => exact Scalar.exact h hv
  | succ below ih =>
    cases v with
    | arr vs =>
      refine exactItems_iff.mpr fun v hmem => ?_
      obtain ⟨_, u, hbelow, hu⟩ := h.item hmem
      cases hbelow
      exact ih hu (integralItems_iff.mp hv v hmem)
    | obj fs =>
      refine ⟨h.sorted, exactFields_iff.mpr fun f hmem => ?_⟩
      obtain ⟨_, u, hbelow, hu⟩ := h.field hmem
      cases hbelow
      exact ih hu (integralFields_iff.mp hv f hmem)
    | int k => exact h.bounds
    | float x => exact hv.elim
    | null | bool | str => trivial

end

/-! ### Whole texts -/

section

variable {s : List Char} {v w : Json}

/-- A text says one value. -/
theorem Text.unique (h : Text s v) (h' : Text s w) : v = w := by
  have heq := parse_iff.2 h
  rw [parse_iff.2 h'] at heq
  cases heq
  rfl

end

end LuaSession.Json
