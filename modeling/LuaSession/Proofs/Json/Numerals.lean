import LuaSession.Proofs.Json.Digits

/-!
# The numerals of JSON

Which texts are numerals, said without the reader: whole digits without a superfluous zero, then
digits after a point, then an exponent. The reader of numbers takes a numeral and leaves the rest,
and it takes nothing else.

* `number_local`: what was taken is a numeral, and is taken in front of anything that ends it.
* `number_numeral`: a numeral is read unless it exceeds every double.
* `number_natChars`: integers of 64 bits are read back from their digits.
-/

namespace LuaSession.Json

open Number

/-! ### The grammar -/

/-- One or more decimal digits. -/
def Digits (t : List Char) : Prop :=
  t ≠ [] ∧ ∀ c ∈ t, '0' ≤ c ∧ c ≤ '9'

/-- Of a given text it can be computed. -/
theorem Digits.of_all {t : List Char} (hne : t ≠ [])
    (h : t.all (fun c => decide ('0' ≤ c ∧ c ≤ '9')) = true) : Digits t :=
  ⟨hne, by simpa only [List.all_eq_true, decide_eq_true_eq] using h⟩

/-- Digits that begin with a zero only if there is no other. -/
def Whole (t : List Char) : Prop :=
  t = ['0'] ∨ Digits t ∧ t.head? ≠ some '0'

/-- A point and digits, or nothing. -/
def Fraction (t : List Char) : Prop :=
  t = [] ∨ ∃ ds, Digits ds ∧ t = '.' :: ds

/-- A mark, perhaps a sign, and digits, or nothing. -/
def Exponent (t : List Char) : Prop :=
  t = [] ∨ ∃ mark sign ds, (mark = 'e' ∨ mark = 'E') ∧ (sign = [] ∨ sign = ['+'] ∨ sign = ['-']) ∧
    Digits ds ∧ t = mark :: (sign ++ ds)

/-- A number without its sign. -/
def Numeral (t : List Char) : Prop :=
  ∃ whole fraction exponent, Whole whole ∧ Fraction fraction ∧ Exponent exponent ∧
    t = whole ++ (fraction ++ exponent)

/-- A numeral beyond every double. -/
theorem numeral_huge : Numeral "1e9999999999".toList := by
  have hdigits : Digits "9999999999".toList := .of_all (by decide) (by decide)
  have hwhole : Whole ['1'] := .inr ⟨.of_all (by decide) (by decide), by decide⟩
  exact ⟨['1'], [], _, hwhole, .inl rfl, .inr ⟨'e', [], _, .inl rfl, .inl rfl, hdigits, rfl⟩, rfl⟩

/-- A reader takes texts of some shape: each that it took, it takes in front of whatever ends a
number. -/
def Local (read : List Char → Except Fault (Json × List Char)) (shape : List Char → Prop) : Prop :=
  ∀ s v rest, read s = .ok (v, rest) → ∃ t, s = t ++ rest ∧ shape t ∧
    ∀ rest', Ends rest' → read (t ++ rest') = .ok (v, rest')

/-- A reader reads the whole of each text of some shape, unless the number is out of range. -/
def Total (read : List Char → Except Fault (Json × List Char)) (shape : List Char → Prop) : Prop :=
  ∀ t, shape t → (∃ v, read t = .ok (v, [])) ∨ ∃ left, read t = .error ⟨.numberOutOfRange, left⟩

/-- The integer of a sign and a magnitude. -/
def signed (negative : Bool) (n : Nat) : Int :=
  if negative then -n else n

/-! ### Digits -/

theorem digitValue_some {c : Char} {d : Nat} (h : digitValue? c = some d) :
    d < 10 ∧ c = digitChar d := by
  unfold digitValue? at h
  split at h
  · rename_i hc
    have hlow : 48 ≤ c.toNat := hc.1
    have hhigh : c.toNat ≤ 57 := hc.2
    cases h
    refine ⟨by omega, ?_⟩
    have hd : c.toNat - 48 < 10 := by omega
    rw [digitChar, if_pos hd, Nat.add_sub_cancel' hlow, Char.ofNat_toNat]
  · cases h

theorem digitChar_digit : ∀ d < 10, '0' ≤ digitChar d ∧ digitChar d ≤ '9' := by
  decide

theorem digitValue_digit {c : Char} (h : '0' ≤ c ∧ c ≤ '9') :
    digitValue? c = some (c.toNat - 48) :=
  if_pos h

/-- Digits are the characters of their values. -/
theorem Digits.values {t : List Char} (h : Digits t) :
    ∃ ds : List Nat, ds ≠ [] ∧ (∀ d ∈ ds, d < 10) ∧ t = ds.map digitChar := by
  obtain ⟨hne, hall⟩ := h
  have hvalue : ∀ c ∈ t, c.toNat - 48 < 10 ∧ c = digitChar (c.toNat - 48) := fun c hc =>
    digitValue_some (digitValue_digit (hall c hc))
  refine ⟨t.map fun c => c.toNat - 48, by simpa using hne, ?_, ?_⟩
  · intro d hd
    obtain ⟨c, hc, rfl⟩ := List.mem_map.1 hd
    exact (hvalue c hc).1
  · rw [List.map_map]
    exact (List.map_id t).symm.trans (List.map_congr_left fun c hc => (hvalue c hc).2)

theorem digits_values {ds : List Nat} (hne : ds ≠ []) (h : ∀ d ∈ ds, d < 10) :
    Digits (ds.map digitChar) := by
  refine ⟨by simpa using hne, fun c hc => ?_⟩
  obtain ⟨d, hd, rfl⟩ := List.mem_map.1 hc
  exact digitChar_digit d (h d hd)

/-- What is taken as digits are all digits up to the first other character. -/
theorem digitSpan_sound (s : List Char) : s = (digitSpan s).1.map digitChar ++ (digitSpan s).2 ∧
    (∀ d ∈ (digitSpan s).1, d < 10) ∧ NoDigit (digitSpan s).2 := by
  induction s with
  | nil => exact ⟨rfl, List.forall_mem_nil _, nofun⟩
  | cons c s ih =>
    obtain ⟨hs, hlt, hno⟩ := ih
    unfold digitSpan
    split
    · rename_i d hd
      obtain ⟨hd, hc⟩ := digitValue_some hd
      refine ⟨?_, List.forall_mem_cons.2 ⟨hd, hlt⟩, hno⟩
      rw [List.map_cons, List.cons_append, ← hs, ← hc]
    · rename_i hd
      refine ⟨rfl, List.forall_mem_nil _, ?_⟩
      rintro _ _ ⟨⟩
      exact hd

/-! ### Doubles -/

theorem double_ok {n : Bool} {sig : Nat} {e : Int} {s rest : List Char} {v : Json}
    (h : double n sig e s = .ok (v, rest)) :
    rest = s ∧ ∀ s', double n sig e s' = .ok (v, s') := by
  unfold double at h ⊢
  cases hx : scaleSteps 4 (Float.ofNat sig) e with
  | none =>
    rw [hx] at h
    cases h
  | some x =>
    rw [hx] at h
    cases h
    exact ⟨rfl, fun _ => rfl⟩

theorem double_total (n : Bool) (sig : Nat) (e : Int) (s : List Char) :
    (∃ v, double n sig e s = .ok (v, s)) ∨
      ∃ left, double n sig e s = .error ⟨.numberOutOfRange, left⟩ := by
  unfold double
  cases scaleSteps 4 (Float.ofNat sig) e with
  | none => exact .inr ⟨_, rfl⟩
  | some x => exact .inl ⟨_, rfl⟩

/-! ### Exponents -/

theorem absorbExponent_noDigit (e : Nat) {rest : List Char} (h : NoDigit rest) :
    absorbExponent e rest = (some e, rest) := by
  cases rest with
  | nil => rfl
  | cons c r => rw [absorbExponent, h c r rfl]

/-- An exponent is taken digit by digit, up to the first other character or to the digit by which it
is too great. -/
theorem absorbExponent_sound (e : Nat) (s : List Char) : ∃ (ds : List Nat) (k : Option Nat)
    (rest : List Char), absorbExponent e s = (k, rest) ∧ (∀ d ∈ ds, d < 10) ∧
      s = ds.map digitChar ++ rest ∧ (k = none → ds ≠ []) ∧ (k ≠ none → NoDigit rest) ∧
      ∀ rest', (k ≠ none → NoDigit rest') →
        absorbExponent e (ds.map digitChar ++ rest') = (k, rest') := by
  induction s generalizing e with
  | nil =>
    exact ⟨[], some e, [], rfl, List.forall_mem_nil _, rfl, nofun, fun _ => nofun,
      fun rest' h => absorbExponent_noDigit e (h nofun)⟩
  | cons c s ih =>
    cases hc : digitValue? c with
    | none =>
      have hno : NoDigit (c :: s) := by
        rintro _ _ ⟨⟩
        exact hc
      exact ⟨[], some e, c :: s, absorbExponent_noDigit e hno, List.forall_mem_nil _, rfl, nofun, fun _ => hno,
        fun rest' h => absorbExponent_noDigit e (h nofun)⟩
    | some d =>
      obtain ⟨hd, rfl⟩ := digitValue_some hc
      by_cases hbig : 0x80000000 ≤ e * 10 + d
      · have hcons (rest : List Char) :
            absorbExponent e (digitChar d :: rest) = (none, rest) := by
          rw [absorbExponent, hc]
          exact if_pos hbig
        exact ⟨[d], none, s, hcons s, List.forall_mem_singleton.2 hd, rfl,
          fun _ => List.cons_ne_nil _ _, fun h => absurd rfl h, fun rest' _ => hcons rest'⟩
      · have hcons (rest : List Char) :
            absorbExponent e (digitChar d :: rest) = absorbExponent (e * 10 + d) rest := by
          rw [absorbExponent, hc]
          exact if_neg hbig
        obtain ⟨ds, k, rest, heq, hlt, hs, -, hno, hrest⟩ := ih (e * 10 + d)
        refine ⟨d :: ds, k, rest, (hcons s).trans heq, List.forall_mem_cons.2 ⟨hd, hlt⟩, ?_,
          fun _ => List.cons_ne_nil _ _, hno, fun rest' h => (hcons _).trans (hrest rest' h)⟩
        rw [List.map_cons, List.cons_append, ← hs]

/-- No digit is left of digits that are taken up to the first other character. -/
theorem eq_nil_of_digits {t u rest : List Char} (ht : Digits t) (h : t = u ++ rest)
    (hr : NoDigit rest) : rest = [] := by
  cases rest with
  | nil => rfl
  | cons c r =>
    have hc := ht.2 c (by rw [h]; exact List.mem_append_right _ List.mem_cons_self)
    have hnone := hr c r rfl
    rw [digitValue_digit hc] at hnone
    cases hnone

section

variable {n : Bool} {sig : Nat} {e : Int} {down : Bool}

theorem exponentDigits_digits {ds : List Nat} (hne : ds ≠ []) (h : ∀ d ∈ ds, d < 10)
    (rest : List Char) : exponentDigits n sig e down (ds.map digitChar ++ rest) =
      match absorbExponent 0 (ds.map digitChar ++ rest) with
      | (some k, rest) => double n sig (if down then e - k else e + k) rest
      | (none, rest) =>
        if sig != 0 && !down then failAt .numberOutOfRange rest
        else .ok (.float (if n then -0.0 else 0.0), (digitSpan rest).2) := by
  cases ds with
  | nil => exact absurd rfl hne
  | cons d ds =>
    have hd := digitValue_digitChar d (h d List.mem_cons_self)
    change exponentDigits n sig e down (digitChar d :: (ds.map digitChar ++ rest)) = _
    rw [exponentDigits, hd]
    rfl

theorem exponentDigits_local : Local (exponentDigits n sig e down) Digits := by
  intro s v rest h
  obtain ⟨ds, k, rest₀, heq, hlt, hs, hone, hno, hagain⟩ := absorbExponent_sound 0 s
  have hne : ds ≠ [] := by
    rintro rfl
    change s = rest₀ at hs
    subst hs
    cases k with
    | none => exact hone rfl rfl
    | some k =>
      cases s with
      | nil => cases h
      | cons c r =>
        rw [exponentDigits, hno nofun c r rfl] at h
        cases h
  rw [hs, exponentDigits_digits hne hlt, ← hs, heq] at h
  cases k with
  | some k =>
    obtain ⟨rfl, hdouble⟩ := double_ok h
    refine ⟨ds.map digitChar, hs, digits_values hne hlt, fun rest' hr => ?_⟩
    rw [exponentDigits_digits hne hlt, hagain rest' fun _ => hr.noDigit]
    exact hdouble rest'
  | none =>
    dsimp only at h
    obtain ⟨hspan, hlt', -⟩ := digitSpan_sound rest₀
    split at h
    · cases h
    · rename_i hsmall
      cases h
      have hall : ∀ d ∈ ds ++ (digitSpan rest₀).1, d < 10 :=
        List.forall_mem_append.2 ⟨hlt, hlt'⟩
      refine ⟨(ds ++ (digitSpan rest₀).1).map digitChar, ?_,
        digits_values (by simp [hne]) hall, fun rest' hr => ?_⟩
      · rw [List.map_append, List.append_assoc, ← hspan]
        exact hs
      · rw [exponentDigits_digits (by simp [hne]) hall, List.map_append, List.append_assoc,
          hagain _ fun h => absurd rfl h]
        dsimp only
        rw [if_neg hsmall, digitSpan_digits hlt' hr.noDigit]

theorem exponentDigits_total : Total (exponentDigits n sig e down) Digits := by
  intro t ht
  obtain ⟨ds, hne, hlt, hds⟩ := ht.values
  obtain ⟨u, k, rest, heq, hlt', hs, -, hno, -⟩ := absorbExponent_sound 0 t
  have hdigits : exponentDigits n sig e down _ = _ := exponentDigits_digits hne hlt []
  rw [List.append_nil, ← hds, heq] at hdigits
  rw [hdigits]
  cases k with
  | some k =>
    obtain rfl := eq_nil_of_digits ht hs (hno nofun)
    exact double_total _ _ _ _
  | none =>
    obtain ⟨hspan, -, hno'⟩ := digitSpan_sound rest
    have hnil : (digitSpan rest).2 = [] := by
      refine eq_nil_of_digits (u := u.map digitChar ++ (digitSpan rest).1.map digitChar) ht ?_ hno'
      rw [List.append_assoc, ← hspan]
      exact hs
    dsimp only
    split
    · exact .inr ⟨_, rfl⟩
    · rw [hnil]
      exact .inl ⟨_, rfl⟩

theorem exponentPart_plain {s : List Char} (h : ∀ c r, s = c :: r → c ≠ 'e' ∧ c ≠ 'E') :
    exponentPart n sig e s = double n sig e s := by
  cases s with
  | nil => rfl
  | cons c r =>
    obtain ⟨he, hE⟩ := h c r rfl
    unfold exponentPart
    dsimp only
    rw [beq_false_of_ne he, beq_false_of_ne hE]
    rfl

theorem exponentPart_mark {mark : Char} (hmark : mark = 'e' ∨ mark = 'E') (r : List Char) :
    exponentPart n sig e (mark :: r) = match r with
      | '+' :: r' => exponentDigits n sig e false r'
      | '-' :: r' => exponentDigits n sig e true r'
      | _ => exponentDigits n sig e false r := by
  unfold exponentPart
  obtain rfl | rfl := hmark <;> rfl

/-- After the mark come perhaps a sign and then the digits. -/
theorem exponentPart_digits {mark : Char} {sign ds : List Char} (hmark : mark = 'e' ∨ mark = 'E')
    (hsign : sign = [] ∨ sign = ['+'] ∨ sign = ['-']) (hds : Digits ds) (rest : List Char) :
    exponentPart n sig e (mark :: (sign ++ ds) ++ rest) =
      exponentDigits n sig e (sign == ['-']) (ds ++ rest) := by
  obtain ⟨hne, hall⟩ := hds
  cases ds with
  | nil => exact absurd rfl hne
  | cons d ds =>
    rw [List.cons_append, exponentPart_mark hmark]
    obtain rfl | rfl | rfl := hsign
    · have hd := hall d List.mem_cons_self
      split
      · rename_i heq
        exact absurd ((List.cons.inj heq).1 ▸ hd) (by decide)
      · rename_i heq
        exact absurd ((List.cons.inj heq).1 ▸ hd) (by decide)
      · rfl
    · rfl
    · rfl

theorem exponentPart_local {mark : Char} (hmark : mark = 'e' ∨ mark = 'E') {r rest : List Char}
    {v : Json} (h : exponentPart n sig e (mark :: r) = .ok (v, rest)) :
    ∃ t, mark :: r = t ++ rest ∧ Exponent t ∧ t ≠ [] ∧
      ∀ rest', Ends rest' → exponentPart n sig e (t ++ rest') = .ok (v, rest') := by
  have hsigned {sign r' : List Char} (hr : r = sign ++ r')
      (hsign : sign = [] ∨ sign = ['+'] ∨ sign = ['-'])
      (h : exponentDigits n sig e (sign == ['-']) r' = .ok (v, rest)) :
      ∃ t, mark :: r = t ++ rest ∧ Exponent t ∧ t ≠ [] ∧
        ∀ rest', Ends rest' → exponentPart n sig e (t ++ rest') = .ok (v, rest') := by
    obtain ⟨ds, rfl, hds, hagain⟩ := exponentDigits_local _ _ _ h
    refine ⟨mark :: (sign ++ ds), by simp [hr], .inr ⟨mark, sign, ds, hmark, hsign, hds, rfl⟩,
      List.cons_ne_nil _ _, fun rest' hr => ?_⟩
    rw [exponentPart_digits hmark hsign hds]
    exact hagain rest' hr
  rw [exponentPart_mark hmark] at h
  split at h
  · exact hsigned rfl (.inr (.inl rfl)) h
  · exact hsigned rfl (.inr (.inr rfl)) h
  · exact hsigned rfl (.inl rfl) h

theorem exponentPart_total : Total (exponentPart n sig e) Exponent := by
  rintro t (rfl | ⟨mark, sign, ds, hmark, hsign, hds, rfl⟩)
  · exact double_total n sig e []
  · have hpart : exponentPart n sig e _ = _ := exponentPart_digits hmark hsign hds []
    rw [List.append_nil, List.append_nil] at hpart
    rw [hpart]
    exact exponentDigits_total ds hds

/-! ### Fractions -/

/-- What follows the whole digits of a number. -/
def Decimals (t : List Char) : Prop :=
  ∃ fraction exponent, Fraction fraction ∧ Exponent exponent ∧ t = fraction ++ exponent

theorem Exponent.noDigit {t rest : List Char} (h : Exponent t) (hr : NoDigit rest) :
    NoDigit (t ++ rest) := by
  obtain rfl | ⟨mark, sign, ds, hmark, -, -, rfl⟩ := h
  · exact hr
  · rintro c r ⟨⟩
    obtain rfl | rfl := hmark <;> decide

theorem Decimals.noDigit {t rest : List Char} (h : Decimals t) (hr : NoDigit rest) :
    NoDigit (t ++ rest) := by
  obtain ⟨fraction, exponent, rfl | ⟨ds, -, rfl⟩, he, rfl⟩ := h
  · exact he.noDigit hr
  · rintro c r ⟨⟩
    decide

theorem fractionPart_dot {dropped : Nat} (r : List Char) :
    fractionPart n sig dropped ('.' :: r) = match digitSpan r with
      | ([], []) => failPeek .eofValue []
      | ([], rest) => failPeek .invalidNumber rest
      | (ds, rest) => exponentPart n (absorb sig ds).1
        ((dropped : Int) - ((ds.length - (absorb sig ds).2 : Nat) : Int)) rest := rfl

/-- A number that goes on with a point. -/
theorem fractionPart_point {dropped : Nat} {ds : List Nat} (hne : ds ≠ []) (h : ∀ d ∈ ds, d < 10)
    {rest : List Char} (hr : NoDigit rest) :
    fractionPart n sig dropped ('.' :: (ds.map digitChar ++ rest)) =
      exponentPart n (absorb sig ds).1
        ((dropped : Int) - ((ds.length - (absorb sig ds).2 : Nat) : Int)) rest := by
  rw [fractionPart_dot, digitSpan_digits h hr]
  cases ds with
  | nil => exact absurd rfl hne
  | cons d ds => rfl

/-- A number that goes on with an exponent, or whose digits were too many. -/
theorem fractionPart_exponent {dropped : Nat} {s : List Char} (hdot : ∀ r, s ≠ '.' :: r)
    (h : dropped ≠ 0 ∨ ∃ c r, s = c :: r ∧ (c = 'e' ∨ c = 'E')) :
    fractionPart n sig dropped s = exponentPart n sig dropped s := by
  unfold fractionPart
  split
  · exact absurd rfl (hdot _)
  · rename_i c r _
    have hcond : (c == 'e' || c == 'E' || dropped != 0) = true := by
      obtain h | ⟨_, _, heq, rfl | rfl⟩ := h
      · simp [h]
      · cases heq
        rfl
      · cases heq
        rfl
    rw [if_pos hcond]
  · obtain h | ⟨_, _, heq, -⟩ := h
    · rw [if_pos (by simpa using h)]
      rfl
    · cases heq

/-- A number that is just its digits: an integer of 64 bits, or else the double of a negative one. -/
theorem fractionPart_whole (n : Bool) (sig : Nat) {s : List Char}
    (h : ∀ c r, s = c :: r → c ≠ '.' ∧ c ≠ 'e' ∧ c ≠ 'E') :
    fractionPart n sig 0 s = .ok (if n && (sig == 0 || decide (0x8000000000000000 < sig)) then
      .float (-(Float.ofNat sig)) else .int (signed n sig), s) := by
  have hsign : (if n = true then
      if (sig == 0 || decide (0x8000000000000000 < sig)) = true then .ok (Json.float (-(Float.ofNat sig)), s)
      else .ok (Json.int (-(sig : Int)), s)
    else .ok (Json.int sig, s)) = (Except.ok (if n && (sig == 0 || decide (0x8000000000000000 < sig)) then
      .float (-(Float.ofNat sig)) else .int (signed n sig), s) : Except Fault (Json × List Char)) := by
    cases n with
    | false => rfl
    | true =>
      rw [if_pos rfl, Bool.true_and]
      split <;> rfl
  unfold fractionPart
  split
  · exact absurd rfl (h _ _ rfl).1
  · rename_i c r _
    obtain ⟨-, he, hE⟩ := h c r rfl
    have hcond : ¬((c == 'e' || c == 'E' || (0 : Nat) != 0) = true) := by
      simp [he, hE]
    rw [if_neg hcond]
    exact hsign
  · exact hsign

/-- Either an exponent stands at the beginning or a number ends there as far as exponents go. -/
theorem marked_or_plain (s : List Char) : (∃ c r, s = c :: r ∧ (c = 'e' ∨ c = 'E')) ∨
    ∀ c r, s = c :: r → c ≠ 'e' ∧ c ≠ 'E' := by
  by_cases h : ∃ c r, s = c :: r ∧ (c = 'e' ∨ c = 'E')
  · exact .inl h
  · refine .inr fun c r hs => not_or.1 fun hc => h ⟨c, r, hs, hc⟩

/-- An exponent that may be missing. -/
theorem exponentPart_sound {s rest : List Char} {v : Json}
    (h : exponentPart n sig e s = .ok (v, rest)) :
    ∃ t, s = t ++ rest ∧ Exponent t ∧
      ((∃ c r, s = c :: r ∧ (c = 'e' ∨ c = 'E')) → ∃ c r, t = c :: r ∧ (c = 'e' ∨ c = 'E')) ∧
      ∀ rest', Ends rest' → exponentPart n sig e (t ++ rest') = .ok (v, rest') := by
  obtain ⟨c, r, rfl, hc⟩ | hplain := marked_or_plain s
  · obtain ⟨t, ht, hexp, hne, hagain⟩ := exponentPart_local hc h
    refine ⟨t, ht, hexp, fun _ => ?_, hagain⟩
    cases t with
    | nil => exact absurd rfl hne
    | cons d t =>
      cases ht
      exact ⟨c, t, rfl, hc⟩
  · rw [exponentPart_plain hplain] at h
    obtain ⟨rfl, hdouble⟩ := double_ok h
    refine ⟨[], rfl, .inl rfl, fun ⟨c, r, hs, hc⟩ => ?_, fun rest' hr => ?_⟩
    · exact absurd hc (not_or.2 (hplain c r hs))
    · rw [List.nil_append, exponentPart_plain fun c r hs => (hr c r hs).2.2]
      exact hdouble rest'

theorem fractionPart_sound {dropped : Nat} {s rest : List Char} {v : Json}
    (h : fractionPart n sig dropped s = .ok (v, rest)) :
    ∃ t, s = t ++ rest ∧ Decimals t ∧
      ∀ rest', Ends rest' → fractionPart n sig dropped (t ++ rest') = .ok (v, rest') := by
  by_cases hdot : ∃ r, s = '.' :: r
  · obtain ⟨r, rfl⟩ := hdot
    obtain ⟨hr, hlt, hno⟩ := digitSpan_sound r
    rw [hr] at h ⊢
    generalize (digitSpan r).1 = ds at *
    generalize (digitSpan r).2 = rest₀ at *
    have hne : ds ≠ [] := by
      rintro rfl
      rw [fractionPart_dot, digitSpan_digits hlt hno] at h
      cases rest₀ <;> cases h
    rw [fractionPart_point hne hlt hno] at h
    obtain ⟨t, rfl, hexp, -, hagain⟩ := exponentPart_sound h
    refine ⟨'.' :: (ds.map digitChar ++ t), by simp,
      ⟨_, t, .inr ⟨_, digits_values hne hlt, rfl⟩, hexp, rfl⟩, fun rest' hr' => ?_⟩
    rw [List.cons_append, List.append_assoc, fractionPart_point hne hlt (hexp.noDigit hr'.noDigit)]
    exact hagain rest' hr'
  · have hdot : ∀ r, s ≠ '.' :: r := fun r hs => hdot ⟨r, hs⟩
    by_cases hmore : dropped ≠ 0 ∨ ∃ c r, s = c :: r ∧ (c = 'e' ∨ c = 'E')
    · rw [fractionPart_exponent hdot hmore] at h
      obtain ⟨t, rfl, hexp, hmark, hagain⟩ := exponentPart_sound h
      refine ⟨t, rfl, ⟨[], t, .inl rfl, hexp, rfl⟩, fun rest' hr' => ?_⟩
      rw [fractionPart_exponent, hagain rest' hr']
      · rintro r hr
        obtain rfl | ⟨mark, sign, ds, hm, -, -, rfl⟩ := hexp
        · exact (hr' _ r hr).2.1 rfl
        · cases hr
          obtain h | h := hm <;> cases h
      · refine hmore.imp_right fun hs => ?_
        obtain ⟨c, r, rfl, hc⟩ := hmark hs
        exact ⟨c, r ++ rest', rfl, hc⟩
    · obtain ⟨hzero, hplain⟩ := not_or.1 hmore
      obtain rfl := Decidable.not_not.1 hzero
      rw [fractionPart_whole n sig fun c r hs =>
        ⟨fun hc => hdot r (hc ▸ hs), not_or.1 fun hc => hplain ⟨c, r, hs, hc⟩⟩] at h
      cases h
      exact ⟨[], rfl, ⟨[], [], .inl rfl, .inl rfl, rfl⟩, fun _ hr' =>
        fractionPart_whole n sig hr'.plain⟩

theorem fractionPart_total (n : Bool) (sig dropped : Nat) :
    Total (fractionPart n sig dropped) Decimals := by
  rintro _ ⟨fraction, exponent, hfraction, hexp, rfl⟩
  obtain rfl | ⟨ds, hds, rfl⟩ := hfraction
  · rw [List.nil_append]
    have hdot : ∀ r, exponent ≠ '.' :: r := by
      rintro r rfl
      obtain h | ⟨mark, sign, ds, hm, -, -, h⟩ := hexp
      · cases h
      · cases h
        obtain h | h := hm <;> cases h
    by_cases hmore : dropped ≠ 0 ∨ ∃ c r, exponent = c :: r ∧ (c = 'e' ∨ c = 'E')
    · rw [fractionPart_exponent hdot hmore]
      exact exponentPart_total exponent hexp
    · obtain ⟨hzero, hplain⟩ := not_or.1 hmore
      obtain rfl := Decidable.not_not.1 hzero
      obtain rfl | ⟨mark, sign, ds, hm, -, -, rfl⟩ := hexp
      · exact .inl ⟨_, fractionPart_whole n sig nofun⟩
      · exact absurd ⟨mark, _, rfl, hm⟩ hplain
  · obtain ⟨values, hne, hlt, rfl⟩ := hds.values
    rw [List.cons_append, fractionPart_point hne hlt]
    · exact exponentPart_total exponent hexp
    · have hno : NoDigit (_ ++ []) := hexp.noDigit nofun
      rw [List.append_nil] at hno
      exact hno

end

/-! ### Numbers -/

section

variable {n : Bool}

/-- A number that begins with a zero has no other whole digits. -/
theorem number_zero {r : List Char} (hr : NoDigit r) : number n ('0' :: r) = fractionPart n 0 0 r := by
  cases r with
  | nil => rfl
  | cons c r =>
    change (if (digitValue? c).isSome = true then _ else fractionPart n 0 0 (c :: r)) = _
    rw [hr c r rfl]
    rfl

/-- Any other number begins with all of its whole digits. -/
theorem number_whole {ds : List Nat} (hne : ds ≠ []) (h : ∀ d ∈ ds, d < 10)
    (hzero : (ds.map digitChar).head? ≠ some '0') {rest : List Char} (hr : NoDigit rest) :
    number n (ds.map digitChar ++ rest) =
      fractionPart n (absorb 0 ds).1 (absorb 0 ds).2 rest := by
  have hspan := digitSpan_digits h hr
  cases ds with
  | nil => exact absurd rfl hne
  | cons d ds =>
    rw [List.map_cons, List.cons_append] at hspan ⊢
    unfold number
    split
    · rename_i heq
      cases heq
    · rename_i heq
      rw [List.map_cons, (List.cons.inj heq).1] at hzero
      exact absurd rfl hzero
    · rw [hspan]

/-- What the reader of numbers takes is a numeral. -/
theorem number_local (n : Bool) : Local (number n) Numeral := by
  intro s v rest h
  by_cases hzero : ∃ r, s = '0' :: r
  · obtain ⟨r, rfl⟩ := hzero
    have hr : NoDigit r := by
      rintro c r rfl
      cases hc : digitValue? c with
      | none => rfl
      | some d =>
        change (if (digitValue? c).isSome = true then failPeek .invalidNumber (c :: r) else _) = _
          at h
        rw [hc] at h
        cases h
    rw [number_zero hr] at h
    obtain ⟨t, rfl, ht, hagain⟩ := fractionPart_sound h
    obtain ⟨f, e, hf, he, rfl⟩ := ht
    refine ⟨'0' :: (f ++ e), rfl, ⟨['0'], f, e, .inl rfl, hf, he, rfl⟩, fun rest' hr' => ?_⟩
    rw [List.cons_append, number_zero (Decimals.noDigit ⟨f, e, hf, he, rfl⟩ hr'.noDigit)]
    exact hagain rest' hr'
  · obtain ⟨hs, hlt, hno⟩ := digitSpan_sound s
    rw [hs] at h hzero ⊢
    generalize (digitSpan s).1 = ds at *
    generalize (digitSpan s).2 = rest₀ at *
    have hne : ds ≠ [] := by
      rintro rfl
      unfold number at h
      split at h
      · cases h
      · rename_i heq
        exact hzero ⟨_, heq⟩
      · rw [digitSpan_digits hlt hno] at h
        cases h
    have hhead : (ds.map digitChar).head? ≠ some '0' := by
      intro hhead
      obtain ⟨r, hr⟩ := List.head?_eq_some_iff.1 hhead
      exact hzero ⟨r ++ rest₀, by rw [hr]; rfl⟩
    rw [number_whole hne hlt hhead hno] at h
    obtain ⟨t, rfl, ht, hagain⟩ := fractionPart_sound h
    obtain ⟨f, e, hf, he, rfl⟩ := ht
    refine ⟨ds.map digitChar ++ (f ++ e), (List.append_assoc _ _ _).symm,
      ⟨_, f, e, .inr ⟨digits_values hne hlt, hhead⟩, hf, he, rfl⟩, fun rest' hr' => ?_⟩
    rw [List.append_assoc,
      number_whole hne hlt hhead (Decimals.noDigit ⟨f, e, hf, he, rfl⟩ hr'.noDigit)]
    exact hagain rest' hr'

/-- Every numeral is read unless it exceeds every double. -/
theorem number_numeral (n : Bool) : Total (number n) Numeral := by
  rintro t ⟨whole, f, e, hwhole, hf, he, rfl⟩
  have hno : NoDigit (_ ++ []) := Decimals.noDigit ⟨f, e, hf, he, rfl⟩ nofun
  rw [List.append_nil] at hno
  obtain rfl | ⟨hds, hhead⟩ := hwhole
  · have hzero := number_zero (n := n) hno
    rw [List.singleton_append, hzero]
    exact fractionPart_total n 0 0 _ ⟨f, e, hf, he, rfl⟩
  · obtain ⟨ds, hne, hlt, rfl⟩ := hds.values
    rw [number_whole hne hlt hhead hno]
    exact fractionPart_total n _ _ _ ⟨f, e, hf, he, rfl⟩

/-- A numeral that is read is read in front of whatever ends it. -/
theorem number_append {t rest : List Char} {v : Json} (h : number n t = .ok (v, []))
    (hr : Ends rest) : number n (t ++ rest) = .ok (v, rest) := by
  obtain ⟨u, hu, -, hagain⟩ := number_local n t v [] h
  rw [List.append_nil] at hu
  subst hu
  exact hagain rest hr

end

/-! ### Written numbers -/

/-- A magnitude that an integer of this sign can have; there is no negative zero. -/
def Bounded (negative : Bool) (n : Nat) : Prop :=
  if negative then 0 < n ∧ n ≤ 0x8000000000000000 else n < 0x10000000000000000

theorem Bounded.lt {negative : Bool} {n : Nat} (h : Bounded negative n) : n < 0x10000000000000000 := by
  cases negative with
  | false => exact h
  | true =>
    have := h.2
    omega

theorem whole_natChars (k : Nat) : Whole (natChars k) := by
  rcases Nat.eq_zero_or_pos k with rfl | hk
  · exact .inl rfl
  · exact .inr ⟨digits_values (toDigits_ne_nil k) (toDigits_lt k), natChars_head hk⟩

theorem numeral_natChars (k : Nat) : Numeral (natChars k) :=
  ⟨_, [], [], whole_natChars k, .inl rfl, .inl rfl, (List.append_nil _).symm⟩

/-- The digits of a number are all taken at once. -/
theorem number_digits (negative : Bool) (k : Nat) {rest : List Char} (hr : Ends rest) :
    number negative (natChars k ++ rest) =
      fractionPart negative (absorb 0 (toDigits k)).1 (absorb 0 (toDigits k)).2 rest := by
  rcases Nat.eq_zero_or_pos k with rfl | hk
  · exact number_zero hr.noDigit
  · exact number_whole (toDigits_ne_nil k) (toDigits_lt k) (natChars_head hk) hr.noDigit

theorem absorb_natChars {k : Nat} (h : k < 0x10000000000000000) : absorb 0 (toDigits k) = (k, 0) := by
  have hvalue : (toDigits k).foldl (fun a d => a * 10 + d) 0 = k := ofDigits_toDigits k
  rw [absorb_all (by rw [hvalue]; exact h), hvalue]

/-- An integer is read back from its digits. -/
theorem number_natChars {negative : Bool} {k : Nat} (hk : Bounded negative k) {rest : List Char}
    (hr : Ends rest) :
    number negative (natChars k ++ rest) = .ok (.int (signed negative k), rest) := by
  have hsmall : (negative && (k == 0 || decide (0x8000000000000000 < k))) = false := by
    cases negative with
    | false => rfl
    | true =>
      obtain ⟨hpos, hle⟩ := hk
      simp only [Bool.true_and, Bool.or_eq_false_iff, beq_eq_false_iff_ne, decide_eq_false_iff_not]
      omega
  rw [number_digits negative k hr, absorb_natChars hk.lt, fractionPart_whole negative k hr.plain, hsmall]
  rfl

end LuaSession.Json
