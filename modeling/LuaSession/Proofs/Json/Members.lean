import LuaSession.Proofs.Json.Canonical

/-!
# One member of an object

An object as it is written, with one member told apart from the others: the last one of its name. What is
read of the object under that name is what is read of the text of the member, and where that text is not
read, the object is not read either.

* `Shows`: the line is an object in which a text is written under a name.
* `Shows.text`: the text is read.
* `Shows.unread`: it is not.
-/

namespace LuaSession.Json

/-! ### Elements of which one is not read -/

section

variable {α β γ : Type} {close : Char} {read : List Char → Except Fault (α × List Char)}
  {add : β → α → β} {done : β → Json} {start : β}
  {loop : Nat → β → List Char → Except Fault (Json × List Char)}
  {whole : List Char → Except Fault (Json × List Char)} {P : List Char → α → Prop}
  {Q : List Char → γ → Prop}

/-- An element that the reader does not take, wherever it stands. -/
structure Unread (read : List Char → Except Fault (α × List Char)) (Q : List Char → γ → Prop) (x : γ) :
    Prop where
  begins : ∀ {t}, Q t x → Begins t
  fails : ∀ {t rest}, Q t x → Ends rest → ∃ f, read (t ++ rest) = .error f

/-- Elements after the first are not read if one of them is not. The induction is on the elements. -/
theorem Brackets.loop_fails (hB : Brackets close read add done start loop whole) (hR : Reads read P)
    {x : γ} (hx : Unread read Q x) {u : List Char} {as before after : List γ} (hu : Listed Q u as)
    (has : as = before ++ x :: after) (hbefore : ∀ b ∈ before, ∀ t, Q t b → ∃ a, P t a) (fuel : Nat)
    (acc : β) {w rest : List Char} (hw : Blank w) (r : Json × List Char) :
    loop fuel acc (w ++ ',' :: (u ++ close :: rest)) ≠ .ok r := by
  have hfirst {fuel : Nat} {acc : β} {w w₁ t rest : List Char} (hw : Blank w) (hw₁ : Blank w₁) (ht : Q t x)
      (hr : Ends rest) : loop fuel acc (w ++ ',' :: (w₁ ++ (t ++ rest))) ≠ .ok r := by
    intro h
    cases fuel with
    | zero => exact hB.loop_zero acc _ r h
    | succ fuel =>
      obtain ⟨f, hf⟩ := hx.fails ht hr
      rw [hB.loop_element hw hw₁ (hx.begins ht), hf] at h
      cases h
  induction hu generalizing fuel acc w before with
  | @one t w₁ w₂ a hw₁ ht hw₂ =>
    cases before with
    | nil =>
      cases has
      rw [List.append_assoc, List.append_assoc]
      exact hfirst hw hw₁ ht (ends_blank hw₂ (hB.close_ends rest))
    | cons b before =>
      have hlength := congrArg List.length has
      simp at hlength
  | @more t w₁ w₂ u a as hw₁ ht hw₂ _ ih =>
    rw [List.append_assoc, List.append_assoc, List.append_assoc, List.cons_append]
    have hcomma : Ends (w₂ ++ ',' :: (u ++ close :: rest)) := ends_blank hw₂ (.cons (by decide) _)
    cases before with
    | nil =>
      cases has
      exact hfirst hw hw₁ ht hcomma
    | cons b before =>
      cases has
      obtain ⟨hb, hbefore⟩ := List.forall_mem_cons.mp hbefore
      obtain ⟨a, ha⟩ := hb t ht
      cases fuel with
      | zero => exact hB.loop_zero acc _ r
      | succ fuel =>
        rw [hB.loop_next hR hw hw₁ ha hcomma]
        exact ih rfl hbefore fuel _ hw₂

/-- What stands between brackets is not read if one element is not. -/
theorem Brackets.whole_fails (hB : Brackets close read add done start loop whole) (hR : Reads read P)
    {x : γ} (hx : Unread read Q x) {t : List Char} {before after : List γ}
    (ht : Elements Q t (before ++ x :: after)) (hbefore : ∀ b ∈ before, ∀ t, Q t b → ∃ a, P t a)
    (rest : List Char) (r : Json × List Char) : whole (t ++ close :: rest) ≠ .ok r := by
  have hfirst {w u rest : List Char} (hw : Blank w) (hu : Q u x) (hr : Ends rest) :
      whole (w ++ (u ++ rest)) ≠ .ok r := by
    intro h
    obtain ⟨f, hf⟩ := hx.fails hu hr
    rw [hB.whole_element hw (hx.begins hu), hf] at h
    cases h
  obtain ⟨-, hnil⟩ | ht := ht
  · exact absurd hnil (List.append_ne_nil_of_right_ne_nil _ (List.cons_ne_nil _ _))
  · generalize has : before ++ x :: after = as at ht
    cases ht with
    | @one u w w' a hw hu hw' =>
      rw [List.append_assoc, List.append_assoc]
      cases before with
      | nil =>
        cases has
        exact hfirst hw hu (ends_blank hw' (hB.close_ends rest))
      | cons b before =>
        have hlength := congrArg List.length has
        simp at hlength
    | @more u w w' u' a as hw hu hw' hmore =>
      rw [List.append_assoc, List.append_assoc, List.append_assoc, List.cons_append]
      have hcomma : Ends (w' ++ ',' :: (u' ++ close :: rest)) := ends_blank hw' (.cons (by decide) _)
      cases before with
      | nil =>
        cases has
        exact hfirst hw hu hcomma
      | cons b before =>
        cases has
        obtain ⟨hb, hbefore⟩ := List.forall_mem_cons.mp hbefore
        obtain ⟨a, ha⟩ := hb u hu
        rw [hB.whole_next hR hw ha hcomma]
        exact hB.loop_fails hR hx hmore rfl hbefore _ _ hw' r

/-- The same text as that of other elements. -/
theorem Listed.map {t : List Char} {bs : List γ} (h : Listed Q t bs) {f : γ → α}
    (hf : ∀ b ∈ bs, ∀ t, Q t b → P t (f b)) : Listed P t (bs.map f) := by
  induction h with
  | one hw ht hw' => exact .one hw (hf _ List.mem_cons_self _ ht) hw'
  | more hw ht hw' _ ih =>
    obtain ⟨hfirst, hrest⟩ := List.forall_mem_cons.mp hf
    exact .more hw (hfirst _ ht) hw' (ih hrest)

theorem Elements.map {t : List Char} {bs : List γ} (h : Elements Q t bs) {f : γ → α}
    (hf : ∀ b ∈ bs, ∀ t, Q t b → P t (f b)) : Elements P t (bs.map f) := by
  obtain ⟨hw, rfl⟩ | h := h
  · exact .inl ⟨hw, rfl⟩
  · exact .inr (h.map hf)

end

/-! ### Members -/

/-- Of a given text it can be computed that its characters stand for themselves. -/
theorem Body.of_all {t : List Char}
    (h : t.all (fun c => decide (0x20 ≤ c.toNat ∧ c ≠ '"' ∧ c ≠ '\\')) = true) : Body t t := by
  induction t with
  | nil => exact .nil
  | cons c t ih =>
    obtain ⟨hc, ht⟩ := Bool.and_eq_true_iff.mp h
    obtain ⟨hlow, hquote, hback⟩ := of_decide_eq_true hc
    exact .plain hlow hquote hback (ih ht)

/-- A member of an object as it is written: its name, and the text of its value. -/
def Member (t : List Char) (f : String × List Char) : Prop :=
  ∃ k key w w', Body k key ∧ Blank w ∧ Blank w' ∧ f.1 = String.ofList key ∧
    t = '"' :: (k ++ '"' :: (w ++ ':' :: (w' ++ f.2)))

/-- A member whose text is that of a value is a field. -/
theorem Member.field {P : List Char → Json → Prop} {t : List Char} {f : String × List Char} {v : Json}
    (h : Member t f) (hv : P f.2 v) : Field P t (f.1, v) := by
  obtain ⟨k, key, w, w', hk, hw, hw', hname, rfl⟩ := h
  exact ⟨k, key, w, w', f.2, hk, hw, hw', hv, hname, rfl⟩

/-- The line is an object in which a text is written under a name, the last time that the name is used. The
values of all other members are written as values. -/
def Shows (line : List Char) (name : String) (u : List Char) : Prop :=
  ∃ w w' inner before after, Blank w ∧ Blank w' ∧ line = w ++ ('\x7b' :: (inner ++ ['\x7d']) ++ w') ∧
    Elements Member inner (before ++ (name, u) :: after) ∧
    (∀ f ∈ before ++ after, ∃ v, Value (maxDepth - 1) f.2 v) ∧ ∀ f ∈ after, f.1 ≠ name

variable {line u : List Char} {name : String}

/-- Where the text is that of a value, the value is found under the name. -/
theorem Shows.text (h : Shows line name u) {v : Json} (hv : Value (maxDepth - 1) u v) :
    ∃ fields, Text line (.obj fields) ∧ lookup name fields = some v := by
  classical
  obtain ⟨w, w', inner, before, after, hw, hw', rfl, hmembers, hvalues, hafter⟩ := h
  -- Which values the other members have does not matter, so one is chosen for each text.
  let told (t : List Char) : Json :=
    if t = u then v else if h : ∃ v', Value (maxDepth - 1) t v' then h.choose else .null
  have htold : ∀ f ∈ before ++ (name, u) :: after, Value (maxDepth - 1) f.2 (told f.2) := by
    intro f hf
    by_cases hu : f.2 = u
    · simpa only [told, hu, if_true] using hv
    · have hvalue : ∃ v', Value (maxDepth - 1) f.2 v' := by
        rcases List.mem_append.mp hf with hf | hf
        · exact hvalues f (List.mem_append_left _ hf)
        · rcases List.mem_cons.mp hf with rfl | hf
          · exact absurd rfl hu
          · exact hvalues f (List.mem_append_right _ hf)
      simpa only [told, hu, hvalue, if_false, dif_pos] using hvalue.choose_spec
  have hfields := hmembers.map (P := Field (Value (maxDepth - 1))) (f := fun f => (f.1, told f.2))
    fun f hf t ht => ht.field (htold f hf)
  rw [List.map_append, List.map_cons] at hfields
  have hkeys : ∀ g ∈ after.map fun f => (f.1, told f.2), g.1 ≠ name := by
    intro g hg
    obtain ⟨f, hf, rfl⟩ := List.mem_map.mp hg
    exact hafter f hf
  have hname : told u = v := if_pos rfl
  rw [hname] at hfields
  exact ⟨_, ⟨w, _, w', hw, .inr (.object hfields), hw', rfl⟩, lookup_last hkeys rfl⟩

/-- Where the text is not read, the line is not. -/
theorem Shows.unread (h : Shows line name u)
    (hfails : ∀ rest, Ends rest → ∃ f, value (maxDepth - 1) (u ++ rest) = .error f) (v : Json) :
    ¬Text line v := by
  obtain ⟨w, w', inner, before, after, hw, hw', rfl, hmembers, hvalues, -⟩ := h
  have hmember : Unread (member (value (maxDepth - 1))) Member (name, u) := by
    constructor
    case begins =>
      rintro t ⟨k, key, w, w', -, -, -, -, rfl⟩
      exact ⟨_, _, rfl, by decide⟩
    case fails =>
      rintro t rest ⟨k, key, w, w', hk, hw, hw', -, rfl⟩ hr
      obtain ⟨f, hf⟩ := hfails rest hr
      have hchars : '"' :: (k ++ '"' :: (w ++ ':' :: (w' ++ u))) ++ rest =
          '"' :: (k ++ '"' :: (w ++ ':' :: (w' ++ (u ++ rest)))) := by
        simp
      refine ⟨f, ?_⟩
      rw [hchars, member_chars (value_skip _) hk hw hw', hf]
      rfl
  have hreads := member_reads (value_reads (maxDepth - 1)) (value_skip (maxDepth - 1))
  have hbefore : ∀ f ∈ before, ∀ t, Member t f → ∃ g, Field (Value (maxDepth - 1)) t g := by
    intro f hf t ht
    obtain ⟨v, hv⟩ := hvalues f (List.mem_append_left _ hf)
    exact ⟨(f.1, v), ht.field hv⟩
  rintro ⟨w₁, t, w₂, hw₁, ht, hw₂, heq⟩
  have hread : value maxDepth (w₁ ++ (t ++ w₂)) = .ok (v, w₂) := by
    rw [value_blank hw₁]
    exact (value_reads maxDepth).complete ht hw₂.ends
  have hbrace : value maxDepth (w ++ ('\x7b' :: (inner ++ ['\x7d']) ++ w')) =
      fields (value (maxDepth - 1)) (inner ++ '\x7d' :: w') := by
    rw [value_blank hw, List.cons_append, List.append_assoc]
    exact value_brace (maxDepth - 1) _
  rw [← heq, hbrace] at hread
  exact brackets_fields.whole_fails hreads hmember hmembers hbefore w' _ hread

end LuaSession.Json
