import LuaSession.Proofs.Json.Canonical

/-!
# Written values are read back

The written form of a value without doubles is a text that says it. So it is read back, if it does
not nest too deep. What the reader makes of fields in any order is the object with these fields.

* `Json.Exact`: the values whose written form says all of them.
* `value_chars`: the written form says the value.
* `parse_chars`: it is read back.
* `chars_printable`: no control character, and so no line end, is written.
-/

namespace LuaSession.Json

open Number

mutual

/-- Every number is an integer of 64 bits, and the fields of every object are in the order of their
keys. -/
def Exact : Json → Prop
  | .null | .bool _ | .str _ => True
  | .int n => -0x8000000000000000 ≤ n ∧ n < 0x10000000000000000
  | .float _ => False
  | .arr items => ExactItems items
  | .obj fields => fields.Pairwise (fun f g => f.1 < g.1) ∧ ExactFields fields

/-- The items of an array are exact. -/
def ExactItems : List Json → Prop
  | [] => True
  | v :: vs => v.Exact ∧ ExactItems vs

/-- The values of fields are exact. -/
def ExactFields : List (String × Json) → Prop
  | [] => True
  | (_, v) :: fs => v.Exact ∧ ExactFields fs

end

mutual

/-- How deep arrays and objects nest. -/
def depth : Json → Nat
  | .arr items => depthItems items + 1
  | .obj fields => depthFields fields + 1
  | _ => 0

/-- How deep the items of an array nest. -/
def depthItems : List Json → Nat
  | [] => 0
  | v :: vs => max v.depth (depthItems vs)

/-- How deep the values of fields nest. -/
def depthFields : List (String × Json) → Nat
  | [] => 0
  | (_, v) :: fs => max v.depth (depthFields fs)

end

/-! ### Strings and integers -/

/-- The four digits of a control character. -/
theorem hex4_hexChars : ∀ n < 0x20, (match hexChars 4 n with
    | [a, b, c, d] => hex4? a b c d
    | _ => none) = some n := by
  decide

/-- A character is written with a letter that stands for it, by its code, or as it is. -/
theorem escapeChar_cases (c : Char) :
    (∃ e, escapeChar c = ['\\', e] ∧ escaped? e = some c ∧ 0x20 ≤ e.toNat) ∨
      (escapeChar c = '\\' :: 'u' :: hexChars 4 c.toNat ∧ c.toNat < 0x20) ∨
        (escapeChar c = [c] ∧ 0x20 ≤ c.toNat ∧ c ≠ '"' ∧ c ≠ '\\') := by
  by_cases hletter : c ∈ ['"', '\\', '\x08', '\t', '\n', '\x0c', '\r']
  · refine .inl ?_
    simp only [List.mem_cons, List.not_mem_nil, or_false] at hletter
    obtain rfl | rfl | rfl | rfl | rfl | rfl | rfl := hletter
    all_goals exact ⟨_, rfl, rfl, by decide⟩
  · simp only [List.mem_cons, List.not_mem_nil, or_false, not_or] at hletter
    obtain ⟨hquote, hslash, hback, htab, hline, hform, hreturn⟩ := hletter
    refine .inr ?_
    rw [escapeChar, if_neg hquote, if_neg hslash, if_neg hback, if_neg htab, if_neg hline,
      if_neg hform, if_neg hreturn]
    split
    · rename_i hlow
      exact .inl ⟨rfl, hlow⟩
    · rename_i hlow
      exact .inr ⟨rfl, Nat.not_lt.1 hlow, hquote, hslash⟩

/-- The written form of a character says it. -/
theorem body_escapeChar (c : Char) {t s : List Char} (h : Body t s) :
    Body (escapeChar c ++ t) (c :: s) := by
  obtain ⟨e, hchars, he, -⟩ | ⟨hchars, hlow⟩ | ⟨hchars, hlow, hquote, hslash⟩ := escapeChar_cases c
  · rw [hchars]
    exact .letter he h
  · have hex := hex4_hexChars c.toNat hlow
    split at hex
    · rename_i hdigits
      have hcode := Body.code hex (.inl (by omega)) h
      rw [Char.ofNat_toNat] at hcode
      rw [hchars, hdigits]
      exact hcode
    · cases hex
  · rw [hchars]
    exact .plain hlow hquote hslash h

theorem body_escaped (s : List Char) : Body (s.flatMap escapeChar) s := by
  induction s with
  | nil => exact .nil
  | cons c s ih => exact body_escapeChar c ih

theorem scalar_str (s : String) : Scalar (quote s.toList) (.str s) := by
  have h := Scalar.string (body_escaped s.toList)
  rw [String.ofList_toList] at h
  exact h

theorem scalar_int {n : Int} (h : (Json.int n).Exact) : Scalar (Json.int n).chars (.int n) := by
  obtain ⟨hlow, hhigh⟩ := h
  have hread {negative : Bool} (hb : Bounded negative n.natAbs)
      (hv : signed negative n.natAbs = n) :
      number negative (natChars n.natAbs) = .ok (.int n, []) := by
    have h := number_natChars hb .nil
    rw [List.append_nil, hv] at h
    exact h
  rw [chars, intChars]
  split
  · rename_i hneg
    have hb : Bounded true n.natAbs := by
      change 0 < n.natAbs ∧ n.natAbs ≤ 0x8000000000000000
      omega
    have hv : signed true n.natAbs = n := by
      change -(n.natAbs : Int) = n
      omega
    exact .negative (numeral_natChars _) (hread hb hv)
  · rename_i hneg
    have hb : Bounded false n.natAbs := by
      change n.natAbs < 0x10000000000000000
      omega
    have hv : signed false n.natAbs = n := by
      change (n.natAbs : Int) = n
      omega
    exact .positive (numeral_natChars _) (hread hb hv)

/-! ### Arrays and objects -/

section

variable {α β : Type} {P : List Char → β → Prop} {written : α → List Char} {told : α → β}

theorem listed_intercalate {a : α} {as : List α} (h : ∀ b ∈ a :: as, P (written b) (told b)) :
    Listed P ([','].intercalate ((a :: as).map written)) ((a :: as).map told) := by
  induction as generalizing a with
  | nil =>
    have hone := Listed.one blank_nil (h a List.mem_cons_self) blank_nil
    simpa using hone
  | cons b as ih =>
    obtain ⟨ha, has⟩ := List.forall_mem_cons.1 h
    have hmore := Listed.more blank_nil ha blank_nil (ih has)
    simpa using hmore

/-- Written forms with commas between them are the elements that they say. -/
theorem elements_intercalate {as : List α} (h : ∀ a ∈ as, P (written a) (told a)) :
    Elements P ([','].intercalate (as.map written)) (as.map told) := by
  cases as with
  | nil => exact .inl ⟨blank_nil, rfl⟩
  | cons a as => exact .inr (listed_intercalate h)

/-- What puts a comma in front of each element but the first puts the commas between them. -/
theorem joined_intercalate {close : Char} (joined : Bool → List α → List Char)
    (hnil : ∀ first, joined first [] = [close])
    (hcons : ∀ first a as, joined first (a :: as) =
      (if first then [] else [',']) ++ (written a ++ joined false as)) (as : List α) :
    joined true as = [','].intercalate (as.map written) ++ [close] := by
  have hmore (as : List α) (a : α) :
      written a ++ joined false as = [','].intercalate ((a :: as).map written) ++ [close] := by
    induction as generalizing a with
    | nil => simp [hnil]
    | cons b as ih => simp [hcons, ih]
  cases as with
  | nil => exact hnil true
  | cons a as => rw [hcons, if_pos rfl, List.nil_append, hmore]

end

/-- The written form of a field. -/
def memberChars (f : String × Json) : List Char :=
  quote f.1.toList ++ ':' :: f.2.chars

theorem itemChars_intercalate (vs : List Json) :
    itemChars true vs = [','].intercalate (vs.map chars) ++ [']'] :=
  joined_intercalate itemChars (fun _ => rfl) (fun _ _ _ => rfl) vs

theorem fieldChars_intercalate (fs : List (String × Json)) :
    fieldChars true fs = [','].intercalate (fs.map memberChars) ++ ['\x7d'] :=
  joined_intercalate fieldChars (fun _ => rfl) (fun _ _ _ => by simp [fieldChars, memberChars]) fs

theorem field_memberChars {P : List Char → Json → Prop} {f : String × Json} {w : Json}
    (h : P f.2.chars w) : Field P (memberChars f) (f.1, w) :=
  ⟨_, f.1.toList, [], [], _, body_escaped _, blank_nil, blank_nil, h, String.ofList_toList.symm,
    by simp [memberChars, quote]⟩

/-- Fields in any order say the object that they make. -/
theorem value_fieldChars {limit : Nat} {fs : List (String × Json)} {g : Json → Json}
    (h : ∀ f ∈ fs, Value limit f.2.chars (g f.2)) :
    Value (limit + 1) ('\x7b' :: fieldChars true fs) (ofFields (fs.map fun f => (f.1, g f.2))) := by
  have hfields : Elements (Field (Value limit)) ([','].intercalate (fs.map memberChars))
      (fs.map fun f => (f.1, g f.2)) :=
    elements_intercalate fun f hf => field_memberChars (h f hf)
  rw [fieldChars_intercalate]
  exact .inr (.object hfields)

/-! ### The whole -/

theorem Scalar.value {t : List Char} {v : Json} (h : Scalar t v) (limit : Nat) : Value limit t v := by
  cases limit with
  | zero => exact h
  | succ limit => exact .inl h

mutual

/-- The written form of a value says it to a reader that goes as deep. -/
theorem value_chars (v : Json) (h : v.Exact) {limit : Nat} (hd : v.depth ≤ limit) :
    Value limit v.chars v := by
  cases v with
  | null => exact Scalar.null.value limit
  | bool b =>
    cases b with
    | false => exact Scalar.false.value limit
    | true => exact Scalar.true.value limit
  | int n => exact (scalar_int h).value limit
  | float x => exact h.elim
  | str s => exact (scalar_str s).value limit
  | arr items =>
    obtain ⟨limit, rfl⟩ : ∃ l, limit = l + 1 := ⟨limit - 1, by rw [depth] at hd; omega⟩
    rw [depth, Nat.add_le_add_iff_right] at hd
    have hitems := elements_intercalate (values_chars items h hd)
    rw [List.map_id'] at hitems
    rw [chars, itemChars_intercalate]
    exact .inr (.array hitems)
  | obj fields =>
    obtain ⟨limit, rfl⟩ : ∃ l, limit = l + 1 := ⟨limit - 1, by rw [depth] at hd; omega⟩
    rw [depth, Nat.add_le_add_iff_right] at hd
    have hfields := value_fieldChars (g := fun v => v) (fieldValues_chars fields h.2 hd)
    rw [List.map_id', ofFields_sorted h.1] at hfields
    exact hfields

theorem values_chars (vs : List Json) (h : ExactItems vs) {limit : Nat}
    (hd : depthItems vs ≤ limit) : ∀ v ∈ vs, Value limit v.chars v := by
  cases vs with
  | nil => exact List.forall_mem_nil _
  | cons v vs =>
    rw [depthItems, Nat.max_le] at hd
    exact List.forall_mem_cons.2 ⟨value_chars v h.1 hd.1, values_chars vs h.2 hd.2⟩

theorem fieldValues_chars (fs : List (String × Json)) (h : ExactFields fs) {limit : Nat}
    (hd : depthFields fs ≤ limit) : ∀ f ∈ fs, Value limit f.2.chars f.2 := by
  cases fs with
  | nil => exact List.forall_mem_nil _
  | cons f fs =>
    obtain ⟨k, v⟩ := f
    rw [depthFields, Nat.max_le] at hd
    exact List.forall_mem_cons.2 ⟨value_chars v h.1 hd.1, fieldValues_chars fs h.2 hd.2⟩

end

/-- A text of a value without blanks around it is read. -/
theorem parse_of_value {s : List Char} {v : Json} (h : Value maxDepth s v) : parse s = .ok v :=
  parse_iff.2 ⟨[], s, [], blank_nil, h, blank_nil, (List.append_nil s).symm⟩

/-- A value is read back from its written form. -/
theorem parse_chars {v : Json} (h : v.Exact) (hd : v.depth ≤ maxDepth) : parse v.chars = .ok v :=
  parse_of_value (value_chars v h hd)

/-- Fields in any order are read as the object that they make. -/
theorem parse_fieldChars {fs : List (String × Json)} {g : Json → Json}
    (h : ∀ f ∈ fs, Value (maxDepth - 1) f.2.chars (g f.2)) :
    parse ('\x7b' :: fieldChars true fs) = .ok (ofFields (fs.map fun f => (f.1, g f.2))) :=
  parse_of_value (value_fieldChars h)

/-- Exact fields are read as they are. -/
theorem parse_exactFields {fs : List (String × Json)} (h : ExactFields fs)
    (hd : depthFields fs < maxDepth) :
    parse ('\x7b' :: fieldChars true fs) = .ok (ofFields fs) := by
  rw [parse_fieldChars (g := fun v => v) (fieldValues_chars fs h (Nat.le_sub_one_of_lt hd)),
    List.map_id']

/-! ### Written values stay on their line -/

/-- A character that is no control character. -/
def Printable (c : Char) : Prop := 0x20 ≤ c.toNat

instance : DecidablePred Printable := fun c => inferInstanceAs (Decidable (0x20 ≤ c.toNat))

/-- Of a given text it can be computed. -/
theorem printable_of_all {l : List Char} (h : l.all (decide <| Printable ·) = true) :
    ∀ c ∈ l, Printable c := by
  simpa only [List.all_eq_true, decide_eq_true_eq] using h

theorem digitChar_printable : ∀ d < 16, Printable (digitChar d) := by
  decide

theorem hexChars_printable (n : Nat) (h : n < 0x20) : ∀ c ∈ hexChars 4 n, Printable c := by
  have hall : ∀ n < 0x20, (hexChars 4 n).all (decide <| Printable ·) = true := by decide
  exact printable_of_all (hall n h)

theorem natChars_printable (n : Nat) : ∀ c ∈ natChars n, Printable c := by
  intro c hc
  obtain ⟨d, hd, rfl⟩ := List.mem_map.1 hc
  exact digitChar_printable d (Nat.lt_trans (toDigits_lt n d hd) (by decide))

theorem escapeChar_printable (c : Char) : ∀ d ∈ escapeChar c, Printable d := by
  have hslash : Printable '\\' := by decide
  obtain ⟨e, hchars, -, he⟩ | ⟨hchars, hlow⟩ | ⟨hchars, hlow, -⟩ := escapeChar_cases c
  · rw [hchars]
    exact List.forall_mem_cons.2 ⟨hslash, List.forall_mem_singleton.2 he⟩
  · have hu : Printable 'u' := by decide
    rw [hchars]
    exact List.forall_mem_cons.2 ⟨hslash, List.forall_mem_cons.2 ⟨hu, hexChars_printable _ hlow⟩⟩
  · rw [hchars]
    exact List.forall_mem_singleton.2 hlow

theorem quote_printable (s : List Char) : ∀ c ∈ quote s, Printable c := by
  have hquote : Printable '"' := by decide
  refine List.forall_mem_cons.2 ⟨hquote, fun c hc => ?_⟩
  rcases List.mem_append.1 hc with hc | hc
  · obtain ⟨d, -, hd⟩ := List.mem_flatMap.1 hc
    exact escapeChar_printable d c hd
  · rw [List.mem_singleton.1 hc]
    exact hquote

theorem itemChars_printable (first : Bool) {vs : List Json}
    (h : ∀ v ∈ vs, ∀ c ∈ v.chars, Printable c) : ∀ c ∈ itemChars first vs, Printable c := by
  induction vs generalizing first with
  | nil => exact List.forall_mem_singleton.2 (by decide)
  | cons v vs ih =>
    obtain ⟨hv, hvs⟩ := List.forall_mem_cons.1 h
    have hcomma : ∀ c ∈ (if first then [] else [',']), Printable c := by
      exact printable_of_all (by cases first <;> decide)
    rw [itemChars]
    exact List.forall_mem_append.2 ⟨hcomma, List.forall_mem_append.2 ⟨hv, ih false hvs⟩⟩

theorem fieldChars_printable (first : Bool) {fs : List (String × Json)}
    (h : ∀ f ∈ fs, ∀ c ∈ f.2.chars, Printable c) : ∀ c ∈ fieldChars first fs, Printable c := by
  induction fs generalizing first with
  | nil => exact List.forall_mem_singleton.2 (by decide)
  | cons f fs ih =>
    obtain ⟨hf, hfs⟩ := List.forall_mem_cons.1 h
    have hcomma : ∀ c ∈ (if first then [] else [',']), Printable c := by
      exact printable_of_all (by cases first <;> decide)
    have hcolon : Printable ':' := by decide
    rw [fieldChars]
    exact List.forall_mem_append.2 ⟨hcomma, List.forall_mem_append.2 ⟨quote_printable _,
      List.forall_mem_cons.2 ⟨hcolon, List.forall_mem_append.2 ⟨hf, ih false hfs⟩⟩⟩⟩

/-- An object is written without control characters if its values are. -/
theorem obj_printable {fs : List (String × Json)} (h : ∀ f ∈ fs, ∀ c ∈ f.2.chars, Printable c) :
    ∀ c ∈ (Json.obj fs).chars, Printable c := by
  have hopen : Printable '\x7b' := by decide
  exact List.forall_mem_cons.2 ⟨hopen, fieldChars_printable true h⟩

mutual

/-- No control character stands in the written form of a value. -/
theorem chars_printable (v : Json) (h : v.Exact) : ∀ c ∈ v.chars, Printable c := by
  cases v with
  | null => exact printable_of_all (by decide)
  | bool b => exact printable_of_all (by cases b <;> decide)
  | int n =>
    rw [chars, intChars]
    split
    · have hminus : Printable '-' := by decide
      exact List.forall_mem_cons.2 ⟨hminus, natChars_printable _⟩
    · exact natChars_printable _
  | float x => exact h.elim
  | str s => exact quote_printable _
  | arr items =>
    have hopen : Printable '[' := by decide
    exact List.forall_mem_cons.2 ⟨hopen, itemChars_printable true (items_printable items h)⟩
  | obj fields => exact obj_printable (fieldValues_printable fields h.2)

theorem items_printable (vs : List Json) (h : ExactItems vs) :
    ∀ v ∈ vs, ∀ c ∈ v.chars, Printable c := by
  cases vs with
  | nil => exact List.forall_mem_nil _
  | cons v vs => exact List.forall_mem_cons.2 ⟨chars_printable v h.1, items_printable vs h.2⟩

theorem fieldValues_printable (fs : List (String × Json)) (h : ExactFields fs) :
    ∀ f ∈ fs, ∀ c ∈ f.2.chars, Printable c := by
  cases fs with
  | nil => exact List.forall_mem_nil _
  | cons f fs =>
    exact List.forall_mem_cons.2 ⟨chars_printable f.2 h.1, fieldValues_printable fs h.2⟩

end

end LuaSession.Json
