import LuaSession.Proofs.Json.Grammar

/-!
# The form of the values that are read

In an object that is read the fields are in the order of their keys, each key once, whatever the order
in the text, and an array that is read has fewer items than the text has characters.

* `Json.Canonical`: this form at every depth, for texts of a size that there can be.
* `ofFields_canonical`: an object that is made of fields has it.
* `parse_canonical`: what is read has it.
-/

namespace LuaSession.Json

mutual

/-- Arrays are no longer than integers of 64 bits with a sign count, and the fields of every object are
in the order of their keys, each key once. -/
def Canonical : Json → Prop
  | .null | .bool _ | .int _ | .float _ | .str _ => True
  | .arr items => items.length < 0x8000000000000000 ∧ CanonicalItems items
  | .obj fields => fields.Pairwise (fun f g => f.1 < g.1) ∧ CanonicalFields fields

/-- The items of an array are canonical. -/
def CanonicalItems : List Json → Prop
  | [] => True
  | v :: vs => v.Canonical ∧ CanonicalItems vs

/-- The values of fields are canonical. -/
def CanonicalFields : List (String × Json) → Prop
  | [] => True
  | (_, v) :: fs => v.Canonical ∧ CanonicalFields fs

end

theorem canonicalItems_iff {vs : List Json} : CanonicalItems vs ↔ ∀ v ∈ vs, v.Canonical := by
  induction vs with
  | nil => exact iff_of_true trivial (List.forall_mem_nil _)
  | cons v vs ih => rw [CanonicalItems, ih, List.forall_mem_cons]

theorem canonicalFields_iff {fs : List (String × Json)} :
    CanonicalFields fs ↔ ∀ f ∈ fs, f.2.Canonical := by
  induction fs with
  | nil => exact iff_of_true trivial (List.forall_mem_nil _)
  | cons f fs ih => rw [CanonicalFields, ih, List.forall_mem_cons]

/-! ### Fields that are put in -/

theorem mem_insertField {k : String} {v : Json} {fs : List (String × Json)} {f : String × Json}
    (h : f ∈ insertField k v fs) : f = (k, v) ∨ f ∈ fs := by
  induction fs with
  | nil => exact .inl (List.mem_singleton.mp h)
  | cons g fs ih =>
    unfold insertField at h
    split at h
    · exact List.mem_cons.mp h
    · split at h
      · exact (List.mem_cons.mp h).imp_right (List.mem_cons_of_mem _)
      · rcases List.mem_cons.mp h with rfl | h
        · exact .inr List.mem_cons_self
        · exact (ih h).imp_right (List.mem_cons_of_mem _)

/-- Fields stay in order. -/
theorem insertField_sorted (k : String) (v : Json) {fs : List (String × Json)}
    (h : fs.Pairwise fun f g => f.1 < g.1) :
    (insertField k v fs).Pairwise fun f g => f.1 < g.1 := by
  induction fs with
  | nil => exact List.pairwise_singleton _ _
  | cons g fs ih =>
    obtain ⟨hg, hfs⟩ := List.pairwise_cons.mp h
    unfold insertField
    split
    · rename_i hlt
      exact List.pairwise_cons.mpr
        ⟨List.forall_mem_cons.mpr ⟨hlt, fun f hf => String.lt_trans hlt (hg f hf)⟩, h⟩
    · rename_i hlt
      split
      · rename_i heq
        exact List.pairwise_cons.mpr ⟨heq ▸ hg, hfs⟩
      · rename_i hne
        refine List.pairwise_cons.mpr ⟨fun f hf => ?_, ih hfs⟩
        rcases mem_insertField hf with rfl | hf
        · exact Std.lt_of_le_of_ne (String.not_lt.mp hlt) (Ne.symm hne)
        · exact hg f hf

theorem insertField_canonical {k : String} {v : Json} {fs : List (String × Json)}
    (h : (Json.obj fs).Canonical) (hv : v.Canonical) :
    (Json.obj (insertField k v fs)).Canonical := by
  refine ⟨insertField_sorted k v h.1, canonicalFields_iff.mpr fun f hf => ?_⟩
  rcases mem_insertField hf with rfl | hf
  · exact hv
  · exact canonicalFields_iff.mp h.2 f hf

/-- What holds of no fields and of fields with one more put in holds of those of an object that is made. -/
theorem ofFields_induction {p : List (String × Json) → Prop} {fs gs : List (String × Json)}
    (h : ofFields fs = .obj gs) (hnil : p [])
    (hput : ∀ acc, p acc → ∀ f ∈ fs, p (insertField f.1 f.2 acc)) : p gs := by
  cases h
  exact List.foldlRecOn fs _ hnil hput

theorem ofFields_canonical {fs : List (String × Json)} (h : ∀ f ∈ fs, f.2.Canonical) :
    (ofFields fs).Canonical :=
  ofFields_induction (p := fun gs => (Json.obj gs).Canonical) rfl ⟨.nil, trivial⟩
    fun _ hacc f hf => insertField_canonical hacc (h f hf)

/-- The fields of an object are among those that it was made of. -/
theorem mem_ofFields {fs gs : List (String × Json)} (h : ofFields fs = .obj gs) {f : String × Json}
    (hf : f ∈ gs) : f ∈ fs := by
  refine ofFields_induction (p := fun gs => ∀ f ∈ gs, f ∈ fs) h (List.forall_mem_nil _) ?_ f hf
  intro acc hacc g hg f hf
  obtain rfl | hf := mem_insertField hf
  · exact hg
  · exact hacc f hf

/-- The fields of an object that is made of fields are in order. -/
theorem ofFields_pairwise {fs gs : List (String × Json)} (h : ofFields fs = .obj gs) :
    gs.Pairwise fun f g => f.1 < g.1 :=
  ofFields_induction (p := fun gs => gs.Pairwise fun f g => f.1 < g.1) h .nil
    fun _ hacc f _ => insertField_sorted f.1 f.2 hacc

/-- A field whose key is greater than all others is put behind them. -/
theorem insertField_last {k : String} {v : Json} {acc : List (String × Json)}
    (h : ∀ f ∈ acc, f.1 < k) : insertField k v acc = acc ++ [(k, v)] := by
  induction acc with
  | nil => rfl
  | cons f acc ih =>
    obtain ⟨hf, hacc⟩ := List.forall_mem_cons.1 h
    obtain ⟨k', v'⟩ := f
    have hlt : ¬k < k' := String.lt_asymm hf
    have hne : k ≠ k' := fun he => String.lt_irrefl _ (he ▸ hf)
    rw [insertField, if_neg hlt, if_neg hne, ih hacc]
    rfl

/-- Fields that are in order make the object with just these fields. -/
theorem ofFields_sorted {fs : List (String × Json)} (h : fs.Pairwise fun f g => f.1 < g.1) :
    ofFields fs = .obj fs := by
  have hfold : ∀ (fs acc : List (String × Json)), (acc ++ fs).Pairwise (fun f g => f.1 < g.1) →
      fs.foldl (fun acc f => insertField f.1 f.2 acc) acc = acc ++ fs := by
    intro fs
    induction fs with
    | nil => exact fun acc _ => (List.append_nil acc).symm
    | cons f fs ih =>
      intro acc hacc
      have hlast : ∀ g ∈ acc, g.1 < f.1 := fun g hg =>
        (List.pairwise_append.1 hacc).2.2 g hg f List.mem_cons_self
      rw [List.foldl_cons, insertField_last hlast, ih _ (by simpa using hacc)]
      simp
  exact congrArg Json.obj (hfold fs [] h)

/-- What is found under the last of the fields of a name, in the object that is made of them. -/
theorem lookup_last {name : String} {before after : List (String × Json)} {v : Json}
    (h : ∀ f ∈ after, f.1 ≠ name) {fields : List (String × Json)}
    (hobj : ofFields (before ++ (name, v) :: after) = .obj fields) :
    lookup name fields = some v := by
  cases hobj
  rw [List.foldl_append, List.foldl_cons]
  refine List.foldlRecOn (motive := fun gs => lookup name gs = some v) after _ ?_ ?_
  · rw [lookup_insertField, if_pos rfl]
  · intro gs hgs f hf
    rw [lookup_insertField, if_neg (h f hf), hgs]

/-! ### Numbers -/

section

variable {n : Bool} {sig : Nat} {e : Int} {s rest : List Char} {v : Json}

theorem double_float (h : double n sig e s = .ok (v, rest)) : ∃ x, v = .float x := by
  unfold double at h
  split at h
  · cases h
    exact ⟨_, rfl⟩
  · cases h

theorem exponentDigits_float {down : Bool} (h : exponentDigits n sig e down s = .ok (v, rest)) :
    ∃ x, v = .float x := by
  unfold exponentDigits at h
  split at h
  · cases h
  · split at h
    · cases h
    · split at h
      · exact double_float h
      · split at h
        · cases h
        · cases h
          exact ⟨_, rfl⟩

theorem exponentPart_float (h : exponentPart n sig e s = .ok (v, rest)) : ∃ x, v = .float x := by
  unfold exponentPart at h
  split at h
  · split at h
    · split at h
      all_goals exact exponentDigits_float h
    · exact double_float h
  · exact double_float h

/-- A number that is read: a double, or an integer of 64 bits. -/
def Numeric (v : Json) : Prop :=
  (∃ x, v = .float x) ∨ ∃ k, v = .int k ∧ -0x8000000000000000 ≤ k ∧ k < 0x10000000000000000

theorem fractionPart_numeric {dropped : Nat} (hsig : sig < 0x10000000000000000)
    (h : fractionPart n sig dropped s = .ok (v, rest)) : Numeric v := by
  unfold fractionPart at h
  have hwhole {s : List Char} (h : (if n then
      if sig == 0 || 0x8000000000000000 < sig then .ok (.float (-(Float.ofNat sig)), s)
      else .ok (.int (-(sig : Int)), s)
    else .ok (.int sig, s) : Except Fault (Json × List Char)) = .ok (v, rest)) : Numeric v := by
    split at h
    · split at h
      · cases h
        exact .inl ⟨_, rfl⟩
      · rename_i hbound
        cases h
        simp only [Bool.or_eq_true, decide_eq_true_eq, not_or] at hbound
        exact .inr ⟨_, rfl, by omega, by omega⟩
    · cases h
      exact .inr ⟨_, rfl, by omega, by omega⟩
  split at h
  · split at h
    · cases h
    · cases h
    · exact .inl (exponentPart_float h)
  · split at h
    · exact .inl (exponentPart_float h)
    · exact hwhole h
  · split at h
    · exact .inl (double_float h)
    · exact hwhole h

/-- Digits are taken only as far as they fit. -/
theorem absorb_lt {ds : List Nat} (hsig : sig < 0x10000000000000000) :
    (absorb sig ds).1 < 0x10000000000000000 := by
  induction ds generalizing sig with
  | nil => exact hsig
  | cons d ds ih =>
    unfold absorb
    split
    · exact hsig
    · rename_i hlt
      exact ih (Nat.not_le.mp hlt)

theorem number_numeric (h : number n s = .ok (v, rest)) : Numeric v := by
  unfold number at h
  split at h
  · cases h
  · split at h
    · split at h
      · cases h
      · exact fractionPart_numeric (by decide) h
    · exact fractionPart_numeric (by decide) h
  · split at h
    · cases h
    · exact fractionPart_numeric (absorb_lt (by decide)) h

theorem Numeric.canonical (h : Numeric v) : v.Canonical := by
  obtain ⟨x, rfl⟩ | ⟨k, rfl, -⟩ := h
  · trivial
  · trivial

end

/-! ### Values -/

section

variable {α : Type} {P : List Char → α → Prop} {t : List Char} {as : List α}

/-- The text of an element is a part of that of all. -/
theorem Listed.text_of_mem (h : Listed P t as) {a : α} (ha : a ∈ as) :
    ∃ u, P u a ∧ u.length ≤ t.length := by
  induction h with
  | @one u w w' b _ hb _ =>
    cases List.mem_singleton.mp ha
    exact ⟨u, hb, by simp only [List.length_append]; omega⟩
  | @more u w w' r b bs _ hb _ _ ih =>
    simp only [List.length_append, List.length_cons]
    rcases List.mem_cons.mp ha with rfl | ha
    · exact ⟨u, hb, by omega⟩
    · obtain ⟨u', hu', hle⟩ := ih ha
      exact ⟨u', hu', by omega⟩

theorem Elements.text_of_mem (h : Elements P t as) {a : α} (ha : a ∈ as) :
    ∃ u, P u a ∧ u.length ≤ t.length := by
  obtain ⟨-, rfl⟩ | h := h
  · cases ha
  · exact h.text_of_mem ha

theorem Elements.length_le (h : Elements P t as) : as.length ≤ t.length + 1 := by
  obtain ⟨-, rfl⟩ | h := h
  · exact Nat.zero_le _
  · exact h.length_le

end

theorem Scalar.canonical {t : List Char} {v : Json} (h : Scalar t v) : v.Canonical := by
  cases h with
  | null | true | false | string => trivial
  | positive _ h | negative _ h => exact (number_numeric h).canonical

/-- The induction is on how deep arrays and objects may nest. -/
theorem Value.canonical {depth : Nat} {t : List Char} {v : Json} (h : Value depth t v)
    (ht : t.length < 0x8000000000000000) : v.Canonical := by
  induction depth generalizing t v with
  | zero => exact Scalar.canonical h
  | succ depth ih =>
    obtain h | h := h
    · exact h.canonical
    · cases h with
      | @array t vs h =>
        simp only [List.length_cons, List.length_append, List.length_nil] at ht
        refine ⟨Nat.lt_of_le_of_lt h.length_le (by omega), canonicalItems_iff.mpr fun v hv => ?_⟩
        obtain ⟨u, hu, hle⟩ := h.text_of_mem hv
        exact ih hu (by omega)
      | @object t fs h =>
        simp only [List.length_cons, List.length_append, List.length_nil] at ht
        refine ofFields_canonical fun f hf => ?_
        obtain ⟨u, ⟨k, key, w, w', r, -, -, -, hr, -, rfl⟩, hle⟩ := h.text_of_mem hf
        simp only [List.length_cons, List.length_append] at hle
        exact ih hr (by omega)

/-- **What is read is canonical**, as long as the text is no longer than there can be texts. -/
theorem parse_canonical {s : List Char} {v : Json} (h : parse s = .ok v)
    (hs : s.length < 0x8000000000000000) : v.Canonical := by
  obtain ⟨w, t, w', -, ht, -, rfl⟩ := parse_iff.mp h
  simp only [List.length_append] at hs
  exact ht.canonical (by omega)

end LuaSession.Json
