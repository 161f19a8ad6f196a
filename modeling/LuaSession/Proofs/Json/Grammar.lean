import LuaSession.Proofs.Json.Numerals

/-!
# What the reader of JSON accepts

The grammar of JSON, said without the reader: which texts say which values. Arrays and objects nest
at most `maxDepth` deep, a numeral has a value if it does not exceed every double, and the escapes
of a string stand for characters, which halves of surrogate pairs are not.

* `Text`: the text says the value.
* `parse_iff`: the reader finds exactly the values that texts say.
-/

namespace LuaSession.Json

open Number

/-! ### The grammar -/

/-- Nothing but blanks. -/
def Blank (t : List Char) : Prop :=
  ∀ c ∈ t, isSpace c = true

/-- The text between the quotes of a string, and the characters that it says. -/
inductive Body : List Char → List Char → Prop
  | nil : Body [] []
  | plain {c : Char} {t s : List Char} : 0x20 ≤ c.toNat → c ≠ '"' → c ≠ '\\' → Body t s →
      Body (c :: t) (c :: s)
  | letter {c e : Char} {t s : List Char} : escaped? c = some e → Body t s →
      Body ('\\' :: c :: t) (e :: s)
  | code {a b c d : Char} {n : Nat} {t s : List Char} : hex4? a b c d = some n →
      (n < 0xD800 ∨ 0xDFFF < n) → Body t s →
      Body ('\\' :: 'u' :: a :: b :: c :: d :: t) (Char.ofNat n :: s)
  | pair {a b c d e f g h : Char} {n n' : Nat} {t s : List Char} :
      hex4? a b c d = some n → 0xD800 ≤ n → n ≤ 0xDBFF →
      hex4? e f g h = some n' → 0xDC00 ≤ n' → n' ≤ 0xDFFF → Body t s →
      Body ('\\' :: 'u' :: a :: b :: c :: d :: '\\' :: 'u' :: e :: f :: g :: h :: t)
        (Char.ofNat ((n - 0xD800) * 1024 + (n' - 0xDC00) + 0x10000) :: s)

/-- What is no array and no object. -/
inductive Scalar : List Char → Json → Prop
  | null : Scalar "null".toList .null
  | true : Scalar "true".toList (.bool true)
  | false : Scalar "false".toList (.bool false)
  | positive {t : List Char} {v : Json} : Numeral t → number false t = .ok (v, []) → Scalar t v
  | negative {t : List Char} {v : Json} : Numeral t → number true t = .ok (v, []) →
      Scalar ('-' :: t) v
  | string {t s : List Char} : Body t s → Scalar ('"' :: (t ++ ['"'])) (.str (String.ofList s))

section

variable {α : Type}

/-- One element with blanks around it, or several with commas between them. -/
inductive Listed (P : List Char → α → Prop) : List Char → List α → Prop
  | one {t w w' : List Char} {a : α} : Blank w → P t a → Blank w' →
      Listed P (w ++ (t ++ w')) [a]
  | more {t w w' u : List Char} {a : α} {as : List α} : Blank w → P t a → Blank w' →
      Listed P u as → Listed P (w ++ (t ++ (w' ++ ',' :: u))) (a :: as)

/-- What stands between brackets: only blanks, or elements. -/
def Elements (P : List Char → α → Prop) (t : List Char) (as : List α) : Prop :=
  Blank t ∧ as = [] ∨ Listed P t as

end

/-- A key in quotes, a colon and a value. -/
def Field (P : List Char → Json → Prop) (t : List Char) (f : String × Json) : Prop :=
  ∃ k key w w' u, Body k key ∧ Blank w ∧ Blank w' ∧ P u f.2 ∧ f.1 = String.ofList key ∧
    t = '"' :: (k ++ '"' :: (w ++ ':' :: (w' ++ u)))

/-- Arrays and objects of the values that `P` tells. -/
inductive Nested (P : List Char → Json → Prop) : List Char → Json → Prop
  | array {t : List Char} {vs : List Json} : Elements P t vs →
      Nested P ('[' :: (t ++ [']'])) (.arr vs)
  | object {t : List Char} {fs : List (String × Json)} : Elements (Field P) t fs →
      Nested P ('\x7b' :: (t ++ ['\x7d'])) (ofFields fs)

/-- A value in which arrays and objects nest at most so deep. -/
def Value : Nat → List Char → Json → Prop
  | 0, t, v => Scalar t v
  | depth + 1, t, v => Scalar t v ∨ Nested (Value depth) t v

/-- A text that says a value: the value with blanks around it. -/
def Text (s : List Char) (v : Json) : Prop :=
  ∃ w t w', Blank w ∧ Value maxDepth t v ∧ Blank w' ∧ s = w ++ (t ++ w')

/-! ### Strings -/

theorem stringRest_sound {acc s rest : List Char} {x : String}
    (h : stringRest acc s = .ok (x, rest)) :
    ∃ t u, s = t ++ '"' :: rest ∧ Body t u ∧ x = String.ofList (acc.reverse ++ u) := by
  fun_induction stringRest acc s with
  | case2 acc r =>
    cases h
    exact ⟨[], [], rfl, .nil, by rw [List.append_nil]⟩
  | case5 acc a b c d r n hhex hlow hrange ih =>
    obtain ⟨t, u, rfl, ht, rfl⟩ := ih h
    have hn : n < 0xD800 ∨ 0xDFFF < n := by
      simp only [Bool.or_eq_true, Bool.and_eq_true, decide_eq_true_eq] at hlow hrange
      omega
    exact ⟨_, _, rfl, .code hhex hn ht, by simp⟩
  | case9 acc a b c d n hhex hlow hrange e f g k r n' hhex' hrange' ih =>
    obtain ⟨t, u, rfl, ht, rfl⟩ := ih h
    simp only [Bool.or_eq_true, Bool.and_eq_true, decide_eq_true_eq] at hlow hrange hrange'
    exact ⟨_, _, rfl, .pair hhex (by omega) (by omega) hhex' (by omega) (by omega) ht, by simp⟩
  | case16 acc c r _ hu e hc ih =>
    obtain ⟨t, u, rfl, ht, rfl⟩ := ih h
    exact ⟨_, _, rfl, .letter hc ht, by simp⟩
  | case19 acc c r hquote _ _ hlast hslash hlow ih =>
    obtain ⟨t, u, rfl, ht, rfl⟩ := ih h
    refine ⟨_, _, rfl, .plain (Nat.not_lt.1 hlow) hquote ?_ ht, by simp⟩
    rintro rfl
    rcases hr : t ++ '"' :: rest with _ | ⟨d, r⟩
    · exact hlast rfl hr
    · exact hslash d r rfl hr
  | _ => cases h

theorem stringRest_plain {c : Char} (hlow : 0x20 ≤ c.toNat) (hquote : c ≠ '"') (hslash : c ≠ '\\')
    (acc r : List Char) : stringRest acc (c :: r) = stringRest (c :: acc) r := by
  rw [stringRest.eq_def]
  split
  all_goals rename_i heq
  all_goals cases heq
  all_goals first
    | exact absurd rfl hquote
    | exact absurd rfl hslash
    | exact if_neg (Nat.not_lt.2 hlow)

theorem stringRest_letter {c e : Char} (hc : escaped? c = some e) (acc r : List Char) :
    stringRest acc ('\\' :: c :: r) = stringRest (e :: acc) r := by
  have hu : c ≠ 'u' := by
    rintro rfl
    cases hc
  rw [stringRest, hc]
  · exact fun _ _ _ _ _ h => absurd h hu
  · exact hu

theorem stringRest_body {t u : List Char} (h : Body t u) (acc rest : List Char) :
    stringRest acc (t ++ '"' :: rest) = .ok (String.ofList (acc.reverse ++ u), rest) := by
  induction h generalizing acc with
  | nil =>
    rw [List.append_nil]
    rfl
  | plain hlow hquote hslash _ ih =>
    rw [List.cons_append, stringRest_plain hlow hquote hslash, ih]
    simp
  | letter hc _ ih =>
    rw [List.cons_append, List.cons_append, stringRest_letter hc, ih]
    simp
  | @code a b c d n t s hhex hn _ ih =>
    have hlow : (decide (0xDC00 ≤ n) && decide (n ≤ 0xDFFF)) = false := by
      simp only [Bool.and_eq_false_iff, decide_eq_false_iff_not]
      omega
    have hrange : (decide (n < 0xD800) || decide (0xDBFF < n)) = true := by
      simp only [Bool.or_eq_true, decide_eq_true_eq]
      omega
    change stringRest acc ('\\' :: 'u' :: a :: b :: c :: d :: (t ++ '"' :: rest)) = _
    rw [stringRest, hhex]
    simp only [hlow, hrange, if_true, Bool.false_eq_true, if_false]
    rw [ih]
    simp
  | @pair a b c d e f g k n n' t s hhex hlow hhigh hhex' hlow' hhigh' _ ih =>
    have hfirst : (decide (0xDC00 ≤ n) && decide (n ≤ 0xDFFF)) = false := by
      simp only [Bool.and_eq_false_iff, decide_eq_false_iff_not]
      omega
    have hrange : (decide (n < 0xD800) || decide (0xDBFF < n)) = false := by
      simp only [Bool.or_eq_false_iff, decide_eq_false_iff_not]
      omega
    have hrange' : (decide (n' < 0xDC00) || decide (0xDFFF < n')) = false := by
      simp only [Bool.or_eq_false_iff, decide_eq_false_iff_not]
      omega
    change stringRest acc ('\\' :: 'u' :: a :: b :: c :: d :: '\\' :: 'u' :: e :: f :: g :: k ::
      (t ++ '"' :: rest)) = _
    rw [stringRest, hhex]
    simp only [hfirst, hrange, hhex', hrange', Bool.false_eq_true, if_false]
    rw [ih]
    simp

/-! ### Blanks -/

theorem blank_nil : Blank [] := List.forall_mem_nil _

/-- What is skipped is blank. -/
theorem skip_sound (s : List Char) : ∃ w, Blank w ∧ s = w ++ skip s :=
  ⟨s.takeWhile isSpace, List.all_eq_true.1 List.all_takeWhile,
    List.takeWhile_append_dropWhile.symm⟩

theorem skip_blank {w : List Char} (h : Blank w) (s : List Char) : skip (w ++ s) = skip s :=
  List.dropWhile_append_of_pos h

theorem skip_cons {c : Char} (h : isSpace c = false) (r : List Char) : skip (c :: r) = c :: r :=
  List.dropWhile_cons_of_neg (by rw [h]; exact Bool.false_ne_true)

/-- Blanks in front of anything else are skipped, and nothing more. -/
theorem skip_blank_cons {w : List Char} (h : Blank w) {c : Char} (hc : isSpace c = false)
    (r : List Char) : skip (w ++ c :: r) = c :: r :=
  (skip_blank h _).trans (skip_cons hc r)

theorem skip_skip (s : List Char) : skip (skip s) = skip s := by
  obtain ⟨w, hw, hs⟩ := skip_sound s
  rw [← skip_blank hw, ← hs]

theorem ends_of_blank {c : Char} (h : isSpace c = true) (r : List Char) : Ends (c :: r) := by
  refine .cons ?_ r
  simp only [isSpace, Bool.or_eq_true, beq_iff_eq] at h
  obtain ((rfl | rfl) | rfl) | rfl := h <;> decide

theorem ends_blank {w rest : List Char} (h : Blank w) (hr : Ends rest) : Ends (w ++ rest) := by
  cases w with
  | nil => exact hr
  | cons c w => exact ends_of_blank (h c List.mem_cons_self) _

theorem Blank.ends {w : List Char} (h : Blank w) : Ends w := by
  have hw := ends_blank h .nil
  rw [List.append_nil] at hw
  exact hw

/-! ### Beginnings -/

/-- How a value begins: with no blank and no closing bracket. -/
def Begins (s : List Char) : Prop :=
  ∃ c r, s = c :: r ∧ isSpace c = false ∧ c ≠ ']' ∧ c ≠ '\x7d'

theorem Begins.append {s : List Char} (h : Begins s) (r : List Char) : Begins (s ++ r) := by
  obtain ⟨c, s, rfl, hc⟩ := h
  exact ⟨c, s ++ r, rfl, hc⟩

theorem Begins.skip {s : List Char} (h : Begins s) : skip s = s := by
  obtain ⟨c, s, rfl, hc, -⟩ := h
  exact List.dropWhile_cons_of_neg (by rw [hc]; exact Bool.false_ne_true)

theorem digitChar_begins : ∀ d < 10, isSpace (digitChar d) = false ∧ digitChar d ≠ ']' ∧
    digitChar d ≠ '\x7d' := by
  decide

theorem Begins.ne_nil {t : List Char} (h : Begins t) : t ≠ [] := by
  obtain ⟨c, r, rfl, -⟩ := h
  exact List.cons_ne_nil c r

theorem begins_head {t : List Char} (h : Begins t) :
    t.head? ≠ some ']' ∧ t.head? ≠ some '\x7d' := by
  obtain ⟨c, r, rfl, -, h, h'⟩ := h
  exact ⟨fun hc => h (Option.some.inj hc), fun hc => h' (Option.some.inj hc)⟩

/-! ### Elements -/

section

variable {α β : Type}

/-- A reader takes the texts that `P` tells, with blanks in front, and nothing else. -/
structure Reads (read : List Char → Except Fault (α × List Char)) (P : List Char → α → Prop) :
    Prop where
  sound : ∀ {s a rest}, read s = .ok (a, rest) → ∃ w t, Blank w ∧ s = w ++ (t ++ rest) ∧ P t a
  complete : ∀ {t a rest}, P t a → Ends rest → read (t ++ rest) = .ok (a, rest)
  begins : ∀ {t a}, P t a → Begins t

/-- How elements are read up to the closing bracket: `loop` reads those after the first, `whole` all
of them, and `add` puts one to those before. -/
structure Brackets (close : Char) (read : List Char → Except Fault (α × List Char))
    (add : β → α → β) (done : β → Json) (start : β)
    (loop : Nat → β → List Char → Except Fault (Json × List Char))
    (whole : List Char → Except Fault (Json × List Char)) : Prop where
  close_space : isSpace close = false
  close_ends : ∀ r, Ends (close :: r)
  close_begins : ∀ {t}, Begins t → t.head? ≠ some close
  loop_zero : ∀ acc s r, loop 0 acc s ≠ .ok r
  loop_close : ∀ {fuel acc s r}, skip s = close :: r → loop (fuel + 1) acc s = .ok (done acc, r)
  loop_comma : ∀ {fuel acc s r}, skip s = ',' :: r → skip r ≠ [] → (skip r).head? ≠ some close →
    loop (fuel + 1) acc s = (read (skip r)).bind fun p => loop fuel (add acc p.1) p.2
  loop_only : ∀ {fuel acc s r}, loop (fuel + 1) acc s = .ok r → (∃ r', skip s = close :: r') ∨
    ∃ r', skip s = ',' :: r' ∧ skip r' ≠ [] ∧ (skip r').head? ≠ some close
  whole_nil : ∀ {s r}, skip s = [] → whole s ≠ .ok r
  whole_close : ∀ {s r}, skip s = close :: r → whole s = .ok (done start, r)
  whole_first : ∀ {s}, skip s ≠ [] → (skip s).head? ≠ some close →
    whole s = (read (skip s)).bind fun p => loop (p.2.length + 1) (add start p.1) p.2

variable {close : Char} {read : List Char → Except Fault (α × List Char)} {add : β → α → β}
  {done : β → Json} {start : β} {loop : Nat → β → List Char → Except Fault (Json × List Char)}
  {whole : List Char → Except Fault (Json × List Char)} {P : List Char → α → Prop}

/-- From `e.bind f = .ok r`, what `e` gave. -/
theorem bind_ok {γ δ ε : Type} {e : Except ε γ} {f : γ → Except ε δ} {r : δ}
    (h : e.bind f = .ok r) : ∃ a, e = .ok a ∧ f a = .ok r := by
  cases e with
  | error e => cases h
  | ok a => exact ⟨a, rfl, h⟩

/-- An element and what is read after it. -/
theorem Reads.first_sound (hR : Reads read P) {s : List Char} {γ : Type}
    {f : α × List Char → Except Fault γ} {r : γ} (h : (read (skip s)).bind f = .ok r) :
    ∃ w t a rest, Blank w ∧ P t a ∧ s = w ++ (t ++ rest) ∧ f (a, rest) = .ok r := by
  obtain ⟨⟨a, rest⟩, hread, hf⟩ := bind_ok h
  obtain ⟨w, hw, hs⟩ := skip_sound s
  obtain ⟨w', t, hw', hs', ht⟩ := hR.sound hread
  refine ⟨w ++ w', t, a, rest, List.forall_mem_append.2 ⟨hw, hw'⟩, ht, ?_, hf⟩
  rw [hs, hs', List.append_assoc]

theorem Brackets.loop_sound (hB : Brackets close read add done start loop whole)
    (hR : Reads read P) {fuel : Nat} {acc : β} {s rest : List Char} {x : Json}
    (h : loop fuel acc s = .ok (x, rest)) :
    ∃ w, Blank w ∧ ((s = w ++ close :: rest ∧ x = done acc) ∨
      ∃ u as, s = w ++ ',' :: (u ++ close :: rest) ∧ Listed P u as ∧
        x = done (as.foldl add acc)) := by
  induction fuel generalizing acc s with
  | zero => exact absurd h (hB.loop_zero acc s _)
  | succ fuel ih =>
    obtain ⟨w, hw, hs⟩ := skip_sound s
    obtain ⟨r, hr⟩ | ⟨r, hr, hne, hhead⟩ := hB.loop_only h
    · rw [hB.loop_close hr] at h
      cases h
      rw [hr] at hs
      exact ⟨w, hw, .inl ⟨hs, rfl⟩⟩
    · rw [hB.loop_comma hr hne hhead] at h
      obtain ⟨w₁, t, a, rest₁, hw₁, ht, rfl, hrest⟩ := hR.first_sound h
      rw [hr] at hs
      obtain ⟨w₂, hw₂, ⟨rfl, rfl⟩ | ⟨u, as, rfl, hu, rfl⟩⟩ := ih hrest
      · refine ⟨w, hw, .inr ⟨_, _, ?_, .one hw₁ ht hw₂, rfl⟩⟩
        rw [hs]
        simp
      · refine ⟨w, hw, .inr ⟨_, _, ?_, .more hw₁ ht hw₂ hu, rfl⟩⟩
        rw [hs]
        simp

theorem Brackets.whole_sound (hB : Brackets close read add done start loop whole)
    (hR : Reads read P) {s rest : List Char} {x : Json} (h : whole s = .ok (x, rest)) :
    ∃ t as, s = t ++ close :: rest ∧ Elements P t as ∧ x = done (as.foldl add start) := by
  obtain ⟨w, hw, hs⟩ := skip_sound s
  by_cases hnil : skip s = []
  · exact absurd h (hB.whole_nil hnil)
  by_cases hhead : (skip s).head? = some close
  · obtain ⟨r, hr⟩ := List.head?_eq_some_iff.1 hhead
    rw [hB.whole_close hr] at h
    cases h
    rw [hr] at hs
    exact ⟨w, [], hs, .inl ⟨hw, rfl⟩, rfl⟩
  · rw [hB.whole_first hnil hhead] at h
    obtain ⟨w₁, t, a, rest₁, hw₁, ht, rfl, hrest⟩ := hR.first_sound h
    obtain ⟨w₂, hw₂, ⟨rfl, rfl⟩ | ⟨u, as, rfl, hu, rfl⟩⟩ := hB.loop_sound hR hrest
    · exact ⟨_, _, by simp, .inr (.one hw₁ ht hw₂), rfl⟩
    · exact ⟨_, _, by simp, .inr (.more hw₁ ht hw₂ hu), rfl⟩

/-- After a comma the next element is read, from where it begins. -/
theorem Brackets.loop_element (hB : Brackets close read add done start loop whole) {fuel : Nat}
    {acc : β} {w w₁ t : List Char} (hw : Blank w) (hw₁ : Blank w₁) (ht : Begins t)
    (rest : List Char) : loop (fuel + 1) acc (w ++ ',' :: (w₁ ++ (t ++ rest))) =
      (read (t ++ rest)).bind fun p => loop fuel (add acc p.1) p.2 := by
  have hbegins := ht.append rest
  have hskip : skip (w₁ ++ (t ++ rest)) = t ++ rest := (skip_blank hw₁ _).trans hbegins.skip
  rw [hB.loop_comma (skip_blank_cons hw (by decide) _) (by rw [hskip]; exact hbegins.ne_nil)
    (by rw [hskip]; exact hB.close_begins hbegins), hskip]

/-- So is the first one. -/
theorem Brackets.whole_element (hB : Brackets close read add done start loop whole)
    {w t : List Char} (hw : Blank w) (ht : Begins t) (rest : List Char) :
    whole (w ++ (t ++ rest)) =
      (read (t ++ rest)).bind fun p => loop (p.2.length + 1) (add start p.1) p.2 := by
  have hbegins := ht.append rest
  have hskip : skip (w ++ (t ++ rest)) = t ++ rest := (skip_blank hw _).trans hbegins.skip
  rw [hB.whole_first (by rw [hskip]; exact hbegins.ne_nil)
    (by rw [hskip]; exact hB.close_begins hbegins), hskip]

theorem Brackets.loop_next (hB : Brackets close read add done start loop whole)
    (hR : Reads read P) {fuel : Nat} {acc : β} {w w₁ t rest : List Char} {a : α} (hw : Blank w)
    (hw₁ : Blank w₁) (ht : P t a) (hr : Ends rest) :
    loop (fuel + 1) acc (w ++ ',' :: (w₁ ++ (t ++ rest))) = loop fuel (add acc a) rest := by
  rw [hB.loop_element hw hw₁ (hR.begins ht), hR.complete ht hr]
  rfl

theorem Brackets.whole_next (hB : Brackets close read add done start loop whole)
    (hR : Reads read P) {w t rest : List Char} {a : α} (hw : Blank w) (ht : P t a)
    (hr : Ends rest) :
    whole (w ++ (t ++ rest)) = loop (rest.length + 1) (add start a) rest := by
  rw [hB.whole_element hw (hR.begins ht), hR.complete ht hr]
  rfl

theorem Brackets.loop_end (hB : Brackets close read add done start loop whole) {fuel : Nat}
    {acc : β} {w rest : List Char} (hw : Blank w) :
    loop (fuel + 1) acc (w ++ close :: rest) = .ok (done acc, rest) :=
  hB.loop_close (skip_blank_cons hw hB.close_space rest)

theorem Brackets.loop_complete (hB : Brackets close read add done start loop whole)
    (hR : Reads read P) {u : List Char} {as : List α} (hu : Listed P u as) {fuel : Nat}
    (hfuel : as.length < fuel) {acc : β} {w rest : List Char} (hw : Blank w) :
    loop fuel acc (w ++ ',' :: (u ++ close :: rest)) = .ok (done (as.foldl add acc), rest) := by
  induction hu generalizing fuel acc w with
  | @one t w₁ w₂ a hw₁ ht hw₂ =>
    obtain ⟨fuel, rfl⟩ : ∃ n, fuel = n + 1 + 1 := ⟨fuel - 2, by simp at hfuel; omega⟩
    rw [List.append_assoc, List.append_assoc,
      hB.loop_next hR hw hw₁ ht (ends_blank hw₂ (hB.close_ends rest)), hB.loop_end hw₂]
    rfl
  | @more t w₁ w₂ u a as hw₁ ht hw₂ _ ih =>
    obtain ⟨fuel, rfl⟩ : ∃ n, fuel = n + 1 := ⟨fuel - 1, by omega⟩
    rw [List.append_assoc, List.append_assoc, List.append_assoc, List.cons_append,
      hB.loop_next hR hw hw₁ ht (ends_blank hw₂ (.cons (by decide) _)),
      ih (Nat.lt_of_succ_lt_succ hfuel) hw₂]
    rfl

theorem Listed.length_le {u : List Char} {as : List α} (h : Listed P u as) :
    as.length ≤ u.length + 1 := by
  induction h with
  | one => simp
  | more _ _ _ _ ih =>
    simp only [List.length_append, List.length_cons]
    omega

theorem Brackets.whole_complete (hB : Brackets close read add done start loop whole)
    (hR : Reads read P) {t : List Char} {as : List α} (ht : Elements P t as) (rest : List Char) :
    whole (t ++ close :: rest) = .ok (done (as.foldl add start), rest) := by
  obtain ⟨hw, rfl⟩ | ht := ht
  · exact hB.whole_close (skip_blank_cons hw hB.close_space rest)
  · cases ht with
    | @one u w w' a hw hu hw' =>
      rw [List.append_assoc, List.append_assoc, hB.whole_next hR hw hu (ends_blank hw' (hB.close_ends rest)),
        hB.loop_end hw']
      rfl
    | @more u w w' u' a as hw hu hw' hrest =>
      rw [List.append_assoc, List.append_assoc, List.append_assoc, List.cons_append,
        hB.whole_next hR hw hu (ends_blank hw' (.cons (by decide) _)), hB.loop_complete hR hrest _ hw']
      · rfl
      · have := hrest.length_le
        simp only [List.length_append, List.length_cons]
        omega

end

/-! ### Arrays and objects -/

section

variable {read : List Char → Except Fault (Json × List Char)} {P : List Char → Json → Prop}

theorem moreItems_succ (fuel : Nat) (acc : List Json) (s : List Char) :
    moreItems read (fuel + 1) acc s = match skip s with
      | [] => .error ⟨.eofList, 0⟩
      | ']' :: r => .ok (.arr acc.reverse, r)
      | ',' :: r =>
        match skip r with
        | [] => .error ⟨.eofValue, 0⟩
        | ']' :: r' => failPeek .trailingComma (']' :: r')
        | s' => (read s').bind fun p => moreItems read fuel (p.1 :: acc) p.2
      | s' => failPeek .expectedListEnd s' := rfl

/-- How the items of an array are read. -/
theorem brackets_items : Brackets ']' read (fun acc v => v :: acc)
    (fun acc => .arr acc.reverse) [] (moreItems read) (items read) where
  close_space := by decide
  close_ends := .cons (by decide)
  close_begins h := (begins_head h).1
  loop_zero acc s r h := by cases h
  loop_close h := by
    unfold moreItems
    rw [h]
    rfl
  loop_comma {fuel acc s r} h hne hhead := by
    have hmatch : moreItems read (fuel + 1) acc s = match skip r with
        | [] => .error ⟨.eofValue, 0⟩
        | ']' :: r' => failPeek .trailingComma (']' :: r')
        | s' => (read s').bind fun p => moreItems read fuel (p.1 :: acc) p.2 := by
      rw [moreItems_succ, h]
      rfl
    rw [hmatch]
    split
    · contradiction
    · rename_i heq
      rw [heq] at hhead
      exact absurd rfl hhead
    · rfl
  loop_only {fuel acc s r} h := by
    unfold moreItems at h
    split at h
    · cases h
    · exact .inl ⟨_, ‹_›⟩
    · rename_i heq
      split at h
      · cases h
      · cases h
      · rename_i hne hhead
        refine .inr ⟨_, heq, hne, fun hc => ?_⟩
        obtain ⟨r', hr⟩ := List.head?_eq_some_iff.1 hc
        exact hhead _ hr
    · cases h
  whole_nil {s r} hs h := by
    unfold items at h
    rw [hs] at h
    cases h
  whole_close h := by
    unfold items
    rw [h]
    rfl
  whole_first {s} hne hhead := by
    unfold items
    split
    · contradiction
    · rename_i heq
      rw [heq] at hhead
      exact absurd rfl hhead
    · rfl

theorem moreFields_succ (fuel : Nat) (acc : List (String × Json)) (s : List Char) :
    moreFields read (fuel + 1) acc s = match skip s with
      | [] => .error ⟨.eofObject, 0⟩
      | '\x7d' :: r => .ok (.obj acc, r)
      | ',' :: r =>
        match skip r with
        | [] => .error ⟨.eofValue, 0⟩
        | '\x7d' :: r' => failPeek .trailingComma ('\x7d' :: r')
        | s' => (member read s').bind fun p => moreFields read fuel (insertField p.1.1 p.1.2 acc) p.2
      | s' => failPeek .expectedObjectEnd s' := rfl

/-- How the fields of an object are read. -/
theorem brackets_fields : Brackets '\x7d' (member read) (fun acc f => insertField f.1 f.2 acc)
    .obj [] (moreFields read) (fields read) where
  close_space := by decide
  close_ends := .cons (by decide)
  close_begins h := (begins_head h).2
  loop_zero acc s r h := by cases h
  loop_close h := by
    unfold moreFields
    rw [h]
    rfl
  loop_comma {fuel acc s r} h hne hhead := by
    have hmatch : moreFields read (fuel + 1) acc s = match skip r with
        | [] => .error ⟨.eofValue, 0⟩
        | '\x7d' :: r' => failPeek .trailingComma ('\x7d' :: r')
        | s' => ((member read) s').bind fun p => moreFields read fuel (insertField p.1.1 p.1.2 acc) p.2 := by
      rw [moreFields_succ, h]
      rfl
    rw [hmatch]
    split
    · contradiction
    · rename_i heq
      rw [heq] at hhead
      exact absurd rfl hhead
    · rfl
  loop_only {fuel acc s r} h := by
    unfold moreFields at h
    split at h
    · cases h
    · exact .inl ⟨_, ‹_›⟩
    · rename_i heq
      split at h
      · cases h
      · cases h
      · rename_i hne hhead
        refine .inr ⟨_, heq, hne, fun hc => ?_⟩
        obtain ⟨r', hr⟩ := List.head?_eq_some_iff.1 hc
        exact hhead _ hr
    · cases h
  whole_nil {s r} hs h := by
    unfold fields at h
    rw [hs] at h
    cases h
  whole_close h := by
    unfold fields
    rw [h]
    rfl
  whole_first {s} hne hhead := by
    unfold fields
    split
    · contradiction
    · rename_i heq
      rw [heq] at hhead
      exact absurd rfl hhead
    · rfl

/-- What is read of a key, a colon and a value is what is read of the value, with the key. -/
theorem member_chars (hskip : ∀ s, read (skip s) = read s) {k key w w' : List Char}
    (hk : Body k key) (hw : Blank w) (hw' : Blank w') (u : List Char) :
    member read ('"' :: (k ++ '"' :: (w ++ ':' :: (w' ++ u)))) =
      (read u).bind fun p => .ok ((String.ofList key, p.1), p.2) := by
  rw [member, stringRest_body hk]
  dsimp only [bind, Except.bind]
  rw [skip_blank_cons hw (by decide)]
  change (read (w' ++ u)).bind _ = _
  rw [← hskip, skip_blank hw', hskip]
  rfl

/-- A field is read as its key and its value. -/
theorem member_reads (hR : Reads read P) (hskip : ∀ s, read (skip s) = read s) :
    Reads (member read) (Field P) where
  sound {s f rest} h := by
    unfold member at h
    split at h
    · rename_i r
      obtain ⟨⟨key, rest₁⟩, hkey, h⟩ := bind_ok h
      obtain ⟨k, body, rfl, hbody, rfl⟩ := stringRest_sound hkey
      obtain ⟨w, hw, hrest⟩ := skip_sound rest₁
      dsimp only at h
      split at h
      · cases h
      · rename_i r' hcolon
        obtain ⟨⟨v, rest₂⟩, hread, h⟩ := bind_ok h
        cases h
        obtain ⟨w', u, hw', rfl, hu⟩ := hR.sound hread
        refine ⟨[], _, blank_nil, ?_, k, body, w, w', u, hbody, hw, hw', hu, rfl, rfl⟩
        rw [hrest, hcolon]
        simp
      · cases h
    · cases h
  complete {t f rest} ht hr := by
    obtain ⟨k, key, w, w', u, hk, hw, hw', hu, hf, rfl⟩ := ht
    have hchars : '"' :: (k ++ '"' :: (w ++ ':' :: (w' ++ u))) ++ rest =
        '"' :: (k ++ '"' :: (w ++ ':' :: (w' ++ (u ++ rest)))) := by
      simp
    rw [hchars, member_chars hskip hk hw hw', hR.complete hu hr, ← hf]
    rfl
  begins {t f} ht := by
    obtain ⟨k, key, w, w', u, -, -, -, -, -, rfl⟩ := ht
    exact ⟨_, _, rfl, by decide⟩

end

/-! ### Values -/

theorem value_skip (depth : Nat) (s : List Char) : value depth (skip s) = value depth s := by
  cases depth with
  | zero =>
    unfold value
    rw [skip_skip]
  | succ depth =>
    unfold value
    rw [skip_skip]

theorem value_minus (depth : Nat) (r : List Char) : value depth ('-' :: r) = number true r := by
  cases depth <;> rfl

theorem value_quote (depth : Nat) (r : List Char) :
    value depth ('"' :: r) = (stringRest [] r).map fun p => (.str p.1, p.2) := by
  cases depth <;> rfl

theorem value_bracket (depth : Nat) (r : List Char) :
    value (depth + 1) ('[' :: r) = items (value depth) r := rfl

theorem value_brace (depth : Nat) (r : List Char) :
    value (depth + 1) ('\x7b' :: r) = fields (value depth) r := rfl

theorem value_digit (depth : Nat) {d : Nat} (h : d < 10) (r : List Char) :
    value depth (digitChar d :: r) = number false (digitChar d :: r) := by
  match d, h with
  | 0, _ | 1, _ | 2, _ | 3, _ | 4, _ | 5, _ | 6, _ | 7, _ | 8, _ | 9, _ => cases depth <;> rfl

theorem word_chars (w : List Char) (v : Json) (rest : List Char) :
    word v w (w ++ rest) = .ok (v, rest) := by
  induction w with
  | nil => cases rest <;> rfl
  | cons c w ih =>
    change (if c = c then word v w (w ++ rest) else _) = _
    rw [if_pos rfl, ih]

theorem value_blank {w : List Char} (h : Blank w) (depth : Nat) (s : List Char) :
    value depth (w ++ s) = value depth s := by
  rw [← value_skip, skip_blank h, value_skip]

theorem word_sound {w s rest : List Char} {v v' : Json} (h : word v w s = .ok (v', rest)) :
    v' = v ∧ s = w ++ rest := by
  induction w generalizing s with
  | nil =>
    cases s <;> cases h <;> exact ⟨rfl, rfl⟩
  | cons c w ih =>
    cases s with
    | nil => cases h
    | cons d s =>
      rw [word] at h
      split at h
      · rename_i hd
        obtain ⟨hv, hs⟩ := ih h
        exact ⟨hv, by rw [hd, hs]; rfl⟩
      · cases h

/-- What is read is a scalar, or an array or object that is not too deep. -/
theorem value_cases {depth : Nat} {s rest : List Char} {v : Json}
    (h : value depth s = .ok (v, rest)) :
    (∃ t, skip s = t ++ rest ∧ Scalar t v) ∨ ∃ d r, depth = d + 1 ∧
      ((skip s = '[' :: r ∧ items (value d) r = .ok (v, rest)) ∨
        (skip s = '\x7b' :: r ∧ fields (value d) r = .ok (v, rest))) := by
  have hnumber {n : Bool} {r : List Char} (h : number n r = .ok (v, rest)) :
      ∃ t, r = t ++ rest ∧ Numeral t ∧ number n t = .ok (v, []) := by
    obtain ⟨t, hr, ht, hagain⟩ := number_local n _ _ _ h
    have hall := hagain [] .nil
    rw [List.append_nil] at hall
    exact ⟨t, hr, ht, hall⟩
  unfold value at h
  split at h
  · cases h
  · rename_i heq
    obtain ⟨rfl, rfl⟩ := word_sound h
    exact .inl ⟨_, heq, .null⟩
  · rename_i heq
    obtain ⟨rfl, rfl⟩ := word_sound h
    exact .inl ⟨_, heq, .true⟩
  · rename_i heq
    obtain ⟨rfl, rfl⟩ := word_sound h
    exact .inl ⟨_, heq, .false⟩
  · rename_i heq
    obtain ⟨t, rfl, ht, hall⟩ := hnumber h
    exact .inl ⟨_, heq, .negative ht hall⟩
  · rename_i heq
    obtain ⟨⟨x, rest₁⟩, hstring, h⟩ := bind_ok h
    cases h
    obtain ⟨t, u, rfl, ht, rfl⟩ := stringRest_sound hstring
    refine .inl ⟨_, ?_, .string ht⟩
    rw [heq]
    simp
  · rename_i heq
    cases depth with
    | zero => cases h
    | succ d => exact .inr ⟨d, _, rfl, .inl ⟨heq, h⟩⟩
  · rename_i heq
    cases depth with
    | zero => cases h
    | succ d => exact .inr ⟨d, _, rfl, .inr ⟨heq, h⟩⟩
  · rename_i heq
    split at h
    · obtain ⟨t, hr, ht, hall⟩ := hnumber h
      exact .inl ⟨t, heq.trans hr, .positive ht hall⟩
    · cases h

theorem Numeral.head {t : List Char} (h : Numeral t) : ∃ d r, t = digitChar d :: r ∧ d < 10 := by
  obtain ⟨whole, f, e, rfl | ⟨hds, -⟩, -, -, rfl⟩ := h
  · exact ⟨0, _, rfl, by decide⟩
  · obtain ⟨ds, hne, hlt, rfl⟩ := hds.values
    cases ds with
    | nil => exact absurd rfl hne
    | cons d ds => exact ⟨d, _, rfl, hlt d List.mem_cons_self⟩

theorem Scalar.begins {t : List Char} {v : Json} (h : Scalar t v) : Begins t := by
  cases h with
  | null => exact ⟨_, _, rfl, by decide⟩
  | true => exact ⟨_, _, rfl, by decide⟩
  | false => exact ⟨_, _, rfl, by decide⟩
  | positive ht _ =>
    obtain ⟨d, r, rfl, hd⟩ := ht.head
    exact ⟨_, _, rfl, digitChar_begins d hd⟩
  | negative _ _ => exact ⟨_, _, rfl, by decide⟩
  | string _ => exact ⟨_, _, rfl, by decide⟩

theorem value_scalar {t rest : List Char} {v : Json} (h : Scalar t v) (hr : Ends rest)
    (depth : Nat) : value depth (t ++ rest) = .ok (v, rest) := by
  cases h with
  | null => cases depth <;> exact word_chars _ _ rest
  | true => cases depth <;> exact word_chars _ _ rest
  | false => cases depth <;> exact word_chars _ _ rest
  | positive ht hv =>
    have hall := number_append hv hr
    obtain ⟨d, r, rfl, hd⟩ := ht.head
    rw [List.cons_append, value_digit depth hd]
    exact hall
  | negative ht hv =>
    rw [List.cons_append, value_minus]
    exact number_append hv hr
  | @string t u ht =>
    have hchars : '"' :: (t ++ ['"']) ++ rest = '"' :: (t ++ '"' :: rest) := by simp
    rw [hchars, value_quote, stringRest_body ht]
    rfl

theorem foldl_items (vs : List Json) : (vs.foldl (fun acc v => v :: acc) []).reverse = vs := by
  simp

/-- The reader of values takes exactly the texts of values. -/
theorem value_reads (depth : Nat) : Reads (value depth) (Value depth) := by
  induction depth with
  | zero =>
    refine ⟨fun {s v rest} h => ?_, fun ht hr => value_scalar ht hr 0, Scalar.begins⟩
    obtain ⟨w, hw, hs⟩ := skip_sound s
    obtain ⟨t, hskip, ht⟩ | ⟨d, r, hd, -⟩ := value_cases h
    · exact ⟨w, t, hw, by rw [hs, hskip], ht⟩
    · cases hd
  | succ depth ih =>
    have hfield := member_reads ih (value_skip depth)
    refine ⟨fun {s v rest} h => ?_, fun {t v rest} ht hr => ?_, fun {t v} ht => ?_⟩
    · obtain ⟨w, hw, hs⟩ := skip_sound s
      obtain ⟨t, hskip, ht⟩ | ⟨d, r, hd, ⟨hskip, hitems⟩ | ⟨hskip, hfields⟩⟩ := value_cases h
      · exact ⟨w, t, hw, by rw [hs, hskip], .inl ht⟩
      · cases hd
        obtain ⟨t, vs, rfl, ht, rfl⟩ := brackets_items.whole_sound ih hitems
        rw [foldl_items]
        refine ⟨w, '[' :: (t ++ [']']), hw, ?_, .inr (.array ht)⟩
        rw [hs, hskip]
        simp
      · cases hd
        obtain ⟨t, fs, rfl, ht, rfl⟩ := brackets_fields.whole_sound hfield hfields
        refine ⟨w, '\x7b' :: (t ++ ['\x7d']), hw, ?_, .inr (.object ht)⟩
        rw [hs, hskip]
        simp
    · obtain ht | ht := ht
      · exact value_scalar ht hr _
      · cases ht with
        | @array t vs ht =>
          have hchars : '[' :: (t ++ [']']) ++ rest = '[' :: (t ++ ']' :: rest) := by simp
          rw [hchars, value_bracket, brackets_items.whole_complete ih ht, foldl_items]
        | @object t fs ht =>
          have hchars : '\x7b' :: (t ++ ['\x7d']) ++ rest = '\x7b' :: (t ++ '\x7d' :: rest) := by
            simp
          rw [hchars, value_brace, brackets_fields.whole_complete hfield ht]
          rfl
    · obtain ht | ht := ht
      · exact ht.begins
      · cases ht with
        | array _ => exact ⟨_, _, rfl, by decide⟩
        | object _ => exact ⟨_, _, rfl, by decide⟩

/-- The reader finds exactly the values that texts say. -/
theorem parse_iff {s : List Char} {v : Json} : parse s = .ok v ↔ Text s v := by
  constructor
  · intro h
    have hall : parseAll s = .ok v := by
      unfold parse at h
      split at h
      · cases h
        assumption
      · cases h
    obtain ⟨⟨v', rest⟩, hvalue, hrest⟩ := bind_ok hall
    obtain ⟨w, t, hw, rfl, ht⟩ := (value_reads maxDepth).sound hvalue
    obtain ⟨w', hw', hs⟩ := skip_sound rest
    dsimp only at hrest
    split at hrest
    · rename_i hnil
      cases hrest
      rw [hnil, List.append_nil] at hs
      exact ⟨w, t, w', hw, ht, hw', by rw [hs]⟩
    · cases hrest
  · rintro ⟨w, t, w', hw, ht, hw', rfl⟩
    have hvalue : value maxDepth (w ++ (t ++ w')) = .ok (v, w') := by
      rw [value_blank hw]
      exact (value_reads maxDepth).complete ht hw'.ends
    have hskip : skip w' = [] := by
      have h := skip_blank hw' []
      rw [List.append_nil] at h
      exact h
    have hall : parseAll (w ++ (t ++ w')) = .ok v := by
      unfold parseAll
      rw [hvalue]
      dsimp only [bind, Except.bind]
      rw [hskip]
      rfl
    unfold parse
    rw [hall]

end LuaSession.Json
