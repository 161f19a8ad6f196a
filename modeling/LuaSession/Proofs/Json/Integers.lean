import Mathlib.Data.Nat.Digits.Lemmas
import LuaSession.Proofs.Json.Canonical
import LuaSession.Proofs.Json.Figures

/-!
# Integers of any size

What a numeral says, exactly: a mantissa and a power of ten. Integers are written with digits and perhaps
a sign, in one way each but for zero, which may have a sign. The reader keeps those of 64 bits; it makes a
double of the others, from as many of the first digits as fit in 64 bits, and may find that no double is
so large.

* `Denotes`: the text is a numeral that says an integer.
* `integer_iff`: how an integer is written as one.
* `value_integer`: what is read of an integer.
* `Kept`: what is read says the integer again when it is written.
-/

namespace LuaSession

namespace Number

/-! ### Digits and numbers -/

theorem ofDigits_reverse (ds : List Nat) : ofDigits ds = Nat.ofDigits 10 ds.reverse := by
  induction ds using List.reverseRecOn with
  | nil => rfl
  | append_singleton ds d ih =>
    rw [List.reverse_append, List.reverse_singleton, List.singleton_append, Nat.ofDigits_cons, ← ih,
      ofDigits, ofDigits, List.foldl_append]
    simp only [List.foldl_cons, List.foldl_nil]
    omega

theorem digitsRev_eq_digits {fuel n : Nat} (hn : 0 < n) (hfuel : n < fuel) :
    digitsRev 8 fuel n = Nat.digits 10 n := by
  induction fuel generalizing n with
  | zero => exact absurd hfuel (Nat.not_lt_zero n)
  | succ fuel ih =>
    rw [digitsRev, Nat.digits_def' (by decide) hn]
    split
    · rename_i hlt
      rw [Nat.mod_eq_of_lt hlt, Nat.div_eq_of_lt hlt, Nat.digits_zero]
    · rw [ih (by omega) (by omega)]

/-- Digits that do not begin with a zero are those of their number. -/
theorem toDigits_ofDigits {ds : List Nat} (hlt : ∀ d ∈ ds, d < 10) {d : Nat} {rest : List Nat}
    (hds : ds = d :: rest) (hd : 0 < d) : toDigits (ofDigits ds) = ds := by
  have hdigits : Nat.digits 10 (ofDigits ds) = ds.reverse := by
    rw [ofDigits_reverse]
    refine Nat.digits_ofDigits 10 (by decide) _ (fun d hd => hlt d (List.mem_reverse.mp hd)) fun hne => ?_
    rw [List.getLast_reverse]
    simp only [hds, List.head_cons]
    exact Nat.ne_of_gt hd
  have hpos : 0 < ofDigits ds := by
    rw [Nat.pos_iff_ne_zero]
    intro hzero
    rw [hzero, Nat.digits_zero] at hdigits
    rw [List.nil_eq, List.reverse_eq_nil_iff] at hdigits
    rw [hdigits] at hds
    cases hds
  rw [toDigits, digitsRev_eq_digits hpos (Nat.lt_succ_self _), hdigits, List.reverse_reverse]

end Number

namespace Json

open Number

/-! ### What a numeral says -/

/-- The number of some digits, if there are some and nothing else. -/
def digitsValue? (s : List Char) : Option Nat :=
  match digitSpan s with
  | (d :: ds, []) => some (ofDigits (d :: ds))
  | _ => none

/-- The power of ten that stands at the end of a numeral. -/
def exponentValue? : List Char → Option Int
  | [] => some 0
  | mark :: s =>
    if mark = 'e' ∨ mark = 'E' then
      match s with
      | '-' :: r => (digitsValue? r).map fun k => -(k : Int)
      | '+' :: r => (digitsValue? r).map fun k => (k : Int)
      | _ => (digitsValue? s).map fun k => (k : Int)
    else none

/-- The mantissa and the power of ten of a numeral. -/
def numeralValue? (s : List Char) : Option (Nat × Int) :=
  match digitSpan s with
  | ([], _) => none
  | (ds, '.' :: r) =>
    match digitSpan r with
    | ([], _) => none
    | (ds', rest) => (exponentValue? rest).map fun e => (ofDigits (ds ++ ds'), e - ds'.length)
  | (ds, rest) => (exponentValue? rest).map fun e => (ofDigits ds, e)

/-- The mantissa and the power of ten of a numeral that may have a sign. -/
def signedValue? : List Char → Option (Int × Int)
  | '-' :: s => (numeralValue? s).map fun p => (-(p.1 : Int), p.2)
  | s => (numeralValue? s).map fun p => ((p.1 : Int), p.2)

/-- The text says the integer. -/
def Denotes (t : List Char) (n : Int) : Prop :=
  ∃ p, signedValue? t = some p ∧ p.1 * 10 ^ p.2.toNat = n * 10 ^ (-p.2).toNat

instance (t : List Char) (n : Int) : Decidable (Denotes t n) :=
  match h : signedValue? t with
  | none => .isFalse fun ⟨_, hp, _⟩ => by cases h.symm.trans hp
  | some p =>
    if hp : p.1 * 10 ^ p.2.toNat = n * 10 ^ (-p.2).toNat then .isTrue ⟨p, h, hp⟩
    else .isFalse fun ⟨_, hq, hn⟩ => hp (by cases h.symm.trans hq; exact hn)

/-- A text says one integer at most. -/
theorem Denotes.unique {t : List Char} {m n : Int} (hm : Denotes t m) (hn : Denotes t n) : m = n := by
  obtain ⟨p, hp, hm⟩ := hm
  obtain ⟨q, hq, hn⟩ := hn
  cases hp.symm.trans hq
  have hpos : (10 : Int) ^ (-p.2).toNat ≠ 0 := Int.ne_of_gt (Int.pow_pos (by decide))
  exact Int.eq_of_mul_eq_mul_right hpos (hm.symm.trans hn)

/-- Digits, and what stands behind them unless it is a point. -/
theorem numeralValue_digits {ds : List Nat} (hne : ds ≠ []) (hlt : ∀ d ∈ ds, d < 10) {rest : List Char}
    (hrest : NoDigit rest) (hpoint : ∀ r, rest ≠ '.' :: r) :
    numeralValue? (digitText ds ++ rest) = (exponentValue? rest).map fun e => (ofDigits ds, e) := by
  unfold numeralValue?
  rw [digitText, digitSpan_digits hlt hrest]
  split
  · rename_i heq
    cases heq
    exact absurd rfl hne
  · rename_i heq
    cases heq
    exact absurd rfl (hpoint _)
  · rename_i heq
    cases heq
    rfl

/-- Digits, a point, more digits, and what stands behind them. -/
theorem numeralValue_point {ds ds' : List Nat} (hne : ds ≠ []) (hlt : ∀ d ∈ ds, d < 10) (hne' : ds' ≠ [])
    (hlt' : ∀ d ∈ ds', d < 10) {rest : List Char} (hrest : NoDigit rest) :
    numeralValue? (digitText ds ++ '.' :: (digitText ds' ++ rest)) =
      (exponentValue? rest).map fun e => (ofDigits (ds ++ ds'), e - (ds'.length : Int)) := by
  have hpoint : NoDigit ('.' :: (digitText ds' ++ rest)) := by
    rintro c r ⟨⟩
    rfl
  unfold numeralValue?
  rw [digitText, digitSpan_digits hlt hpoint]
  split
  · rename_i heq
    cases heq
    exact absurd rfl hne
  · rename_i heq
    cases heq
    rw [digitText, digitSpan_digits hlt' hrest]
    split
    · rename_i heq
      cases heq
      exact absurd rfl hne'
    · rename_i heq
      cases heq
      rfl
  · rename_i hother heq
    cases heq
    exact (hother _ rfl).elim

/-! ### How integers are written -/

/-- The text is an integer as far as its form goes: whole digits, perhaps with a sign, and nothing else. -/
def Integer (t : List Char) : Prop :=
  ∃ ds, Whole ds ∧ (t = ds ∨ t = '-' :: ds)

/-- Whole digits are what is written for a number. -/
theorem whole_iff {t : List Char} : Whole t ↔ ∃ k, t = natChars k := by
  constructor
  · rintro (rfl | ⟨hdigits, hhead⟩)
    · exact ⟨0, rfl⟩
    · obtain ⟨ds, hne, hlt, rfl⟩ := hdigits.values
      cases ds with
      | nil => exact absurd rfl hne
      | cons d ds =>
        have hd : 0 < d := by
          rw [Nat.pos_iff_ne_zero]
          rintro rfl
          exact hhead rfl
        exact ⟨ofDigits (d :: ds), by rw [natChars, toDigits_ofDigits hlt rfl hd]⟩
  · rintro ⟨k, rfl⟩
    exact whole_natChars k

theorem numeralValue_natChars (k : Nat) : numeralValue? (natChars k) = some (k, 0) := by
  have h : numeralValue? (digitText (toDigits k) ++ []) = _ :=
    numeralValue_digits (toDigits_ne_nil k) (toDigits_lt k) nofun nofun
  rw [List.append_nil, ofDigits_toDigits] at h
  exact h

theorem digitChar_ne_minus : ∀ d < 10, digitChar d ≠ '-' := by decide

/-- A text without a sign says what it says as a numeral. -/
theorem signedValue_unsigned {s : List Char} (h : ∀ r, s ≠ '-' :: r) :
    signedValue? s = (numeralValue? s).map fun p => ((p.1 : Int), p.2) := by
  unfold signedValue?
  split
  · exact absurd rfl (h _)
  · rfl

theorem natChars_ne_minus (k : Nat) (r : List Char) : natChars k ≠ '-' :: r := by
  obtain ⟨d, r', hd, hlt⟩ := natChars_begins k
  rw [hd]
  exact fun h => digitChar_ne_minus d hlt (List.cons.inj h).1

theorem denotes_natChars {k : Nat} {n : Int} : Denotes (natChars k) n ↔ n = k := by
  rw [Denotes, signedValue_unsigned (natChars_ne_minus k), numeralValue_natChars]
  simp [eq_comm]

theorem denotes_minus {k : Nat} {n : Int} : Denotes ('-' :: natChars k) n ↔ n = -k := by
  rw [Denotes, signedValue?, numeralValue_natChars]
  simp [eq_comm]

/-- What is written for an integer says it. -/
theorem denotes_intChars (n : Int) : Denotes (intChars n) n := by
  unfold intChars
  split
  · rw [denotes_minus]
    omega
  · rw [denotes_natChars]
    omega

/-- An integer is written in one way, but for zero, which may have a sign. -/
theorem integer_iff {t : List Char} {n : Int} :
    Integer t ∧ Denotes t n ↔ t = intChars n ∨ t = ['-', '0'] ∧ n = 0 := by
  constructor
  · rintro ⟨⟨ds, hwhole, ht⟩, hn⟩
    obtain ⟨k, rfl⟩ := whole_iff.mp hwhole
    rcases ht with rfl | rfl
    · rw [denotes_natChars] at hn
      rw [hn, intChars, if_neg (by omega), Int.natAbs_natCast]
      exact .inl rfl
    · rw [denotes_minus] at hn
      rcases Nat.eq_zero_or_pos k with rfl | hk
      · exact .inr ⟨rfl, by omega⟩
      · rw [hn, intChars, if_pos (by omega), Int.natAbs_neg, Int.natAbs_natCast]
        exact .inl rfl
  · rintro (rfl | ⟨rfl, rfl⟩)
    · refine ⟨?_, denotes_intChars n⟩
      unfold intChars
      split
      · exact ⟨_, whole_iff.mpr ⟨_, rfl⟩, .inr rfl⟩
      · exact ⟨_, whole_iff.mpr ⟨_, rfl⟩, .inl rfl⟩
    · exact ⟨⟨['0'], .inl rfl, .inr rfl⟩, by decide⟩

/-! ### How integers are read -/

/-- The integer has 64 bits, with a sign or without. -/
def Fits (n : Int) : Prop :=
  -0x8000000000000000 ≤ n ∧ n < 0x10000000000000000

instance (n : Int) : Decidable (Fits n) :=
  inferInstanceAs (Decidable (_ ∧ _))

/-- The double that is made of an integer: of its first digits, as many as fit in 64 bits, and of a power
of ten for the others. There is none if every double is exceeded. -/
def roundedInt? (n : Int) : Option Float :=
  let (sig, dropped) := absorb 0 (toDigits n.natAbs)
  let magnitude := if dropped = 0 then some (Float.ofNat sig) else scaleSteps 4 (Float.ofNat sig) dropped
  magnitude.map fun x => if n < 0 then -x else x

/-- What is read of an integer that is written in this way. -/
def integerValue? (t : List Char) (n : Int) : Option Json :=
  if t = ['-', '0'] then some (.float (-(Float.ofNat 0)))
  else if Fits n then some (.int n)
  else (roundedInt? n).map .float

theorem absorb_whole {ds : List Nat} {sig : Nat} (h : (absorb sig ds).2 = 0) :
    (absorb sig ds).1 = ds.foldl (fun a d => a * 10 + d) sig := by
  induction ds generalizing sig with
  | nil => rfl
  | cons d ds ih =>
    rw [absorb] at h ⊢
    split
    · rename_i hle
      rw [if_pos hle] at h
      cases h
    · rename_i hlt
      rw [if_neg hlt] at h
      exact ih h

/-- All digits of a number are taken just if it has 64 bits. -/
theorem absorb_toDigits {k : Nat} :
    (absorb 0 (toDigits k)).2 = 0 ∧ (absorb 0 (toDigits k)).1 = k ∧ k < 0x10000000000000000 ∨
      (absorb 0 (toDigits k)).2 ≠ 0 ∧ 0x10000000000000000 ≤ k := by
  have hvalue : (toDigits k).foldl (fun a d => a * 10 + d) 0 = k := ofDigits_toDigits k
  by_cases hzero : (absorb 0 (toDigits k)).2 = 0
  · have hall := (absorb_whole hzero).trans hvalue
    exact .inl ⟨hzero, hall, hall ▸ absorb_lt (by decide)⟩
  · refine .inr ⟨hzero, Nat.le_of_not_lt fun hlt => hzero ?_⟩
    rw [absorb_natChars hlt]

/-- Digits that were not all taken are a double, if there is one so large. -/
theorem fractionPart_dropped (negative : Bool) (sig : Nat) {dropped : Nat} (hdropped : dropped ≠ 0)
    {rest : List Char} (hr : Ends rest) :
    fractionPart negative sig dropped rest = double negative sig dropped rest := by
  rw [fractionPart_exponent (fun r h => (hr.plain _ r h).1 rfl) (.inl hdropped),
    exponentPart_plain fun c r h => (hr.plain c r h).2]

theorem toOption_double (negative : Bool) (sig : Nat) (e : Int) (rest : List Char) :
    (double negative sig e rest).toOption =
      (scaleSteps 4 (Float.ofNat sig) e).map fun x => (.float (if negative then -x else x), rest) := by
  unfold double
  cases scaleSteps 4 (Float.ofNat sig) e <;> rfl

/-- The text of a magnitude with its sign. -/
def signedChars (negative : Bool) (k : Nat) : List Char :=
  if negative then '-' :: natChars k else natChars k

theorem denotes_signedChars {negative : Bool} {k : Nat} {n : Int} :
    Denotes (signedChars negative k) n ↔ n = signed negative k := by
  cases negative with
  | false => exact denotes_natChars
  | true => exact denotes_minus

theorem signedChars_eq_zero {negative : Bool} {k : Nat} :
    signedChars negative k = ['-', '0'] ↔ negative = true ∧ k = 0 := by
  constructor
  · intro h
    have hzero : Denotes (signedChars negative k) 0 := by
      rw [h]
      decide
    rw [denotes_signedChars] at hzero
    cases negative with
    | false => exact absurd h (natChars_ne_minus k _)
    | true => exact ⟨rfl, by simpa [signed] using hzero.symm⟩
  · rintro ⟨rfl, rfl⟩
    rfl

/-- What is made of a magnitude beyond 64 bits, or of a negative one beyond 63. -/
theorem roundedInt_signed (negative : Bool) {k : Nat} (hk : 0 < k) :
    roundedInt? (signed negative k) =
      (if (absorb 0 (toDigits k)).2 = 0 then some (Float.ofNat (absorb 0 (toDigits k)).1)
        else scaleSteps 4 (Float.ofNat (absorb 0 (toDigits k)).1) (absorb 0 (toDigits k)).2).map
        fun x => if negative then -x else x := by
  have habs : (signed negative k).natAbs = k := by cases negative <;> simp [signed]
  have hsign : signed negative k < 0 ↔ negative = true := by cases negative <;> simp [signed, hk]
  simp only [roundedInt?, habs, hsign]

/-- What the reader of numbers makes of an integer. -/
theorem number_integer (negative : Bool) (k : Nat) {rest : List Char} (hr : Ends rest) :
    (number negative (natChars k ++ rest)).toOption =
      (integerValue? (signedChars negative k) (signed negative k)).map fun v => (v, rest) := by
  rw [number_digits negative k hr]
  obtain ⟨hzero, hall, hlt⟩ | ⟨hdropped, hle⟩ := absorb_toDigits (k := k)
  · rw [hzero, hall, fractionPart_whole negative k hr.plain, Except.toOption]
    unfold integerValue?
    -- Zero with a sign is a double although it has 64 bits, and so is a negative number beyond 63 bits.
    by_cases hminus : negative = true ∧ k = 0
    · obtain ⟨rfl, rfl⟩ := hminus
      rfl
    · rw [if_neg (mt signedChars_eq_zero.mp hminus)]
      by_cases hlarge : negative = true ∧ 0x8000000000000000 < k
      · obtain ⟨rfl, hlarge⟩ := hlarge
        have hfits : ¬Fits (signed true k) := by
          simp only [Fits, signed, if_true]
          omega
        have hcond : (true && (k == 0 || decide (0x8000000000000000 < k))) = true := by simp [hlarge]
        rw [if_neg hfits, if_pos hcond, roundedInt_signed true (by omega), if_pos hzero, hall]
        rfl
      · have hfits : Fits (signed negative k) := by
          cases negative with
          | false => simp only [Fits, signed, Bool.false_eq_true, if_false]; omega
          | true => simp only [Fits, signed, if_true]; simp at hlarge; omega
        have hcond : ¬(negative && (k == 0 || decide (0x8000000000000000 < k))) = true := by
          simp only [Bool.and_eq_true, Bool.or_eq_true, beq_iff_eq, decide_eq_true_eq]
          rintro ⟨hneg, hk | hk⟩
          · exact hminus ⟨hneg, hk⟩
          · exact hlarge ⟨hneg, hk⟩
        rw [if_pos hfits, if_neg hcond]
        rfl
  · have hfits : ¬Fits (signed negative k) := by
      cases negative with
      | false => simp only [Fits, signed, Bool.false_eq_true, if_false]; omega
      | true => simp only [Fits, signed, if_true]; omega
    have hminus : signedChars negative k ≠ ['-', '0'] := by
      rw [Ne, signedChars_eq_zero]
      omega
    rw [fractionPart_dropped negative _ hdropped hr, toOption_double, integerValue?, if_neg hminus,
      if_neg hfits, roundedInt_signed negative (by omega), if_neg hdropped]
    simp only [Option.map_map]
    rfl

/-- **What is read of an integer.** An integer of 64 bits is read as it is, and any other as a double, if
there is one so large; so is zero with a sign. -/
theorem value_integer {t : List Char} {n : Int} (ht : Integer t) (hn : Denotes t n) (depth : Nat)
    {rest : List Char} (hr : Ends rest) :
    (value depth (t ++ rest)).toOption = (integerValue? t n).map fun v => (v, rest) := by
  obtain ⟨ds, hwhole, ht⟩ := ht
  obtain ⟨k, rfl⟩ := whole_iff.mp hwhole
  rcases ht with rfl | rfl
  · obtain rfl := denotes_natChars.mp hn
    obtain ⟨d, r, hd, hlt⟩ := natChars_begins k
    have hvalue : value depth (natChars k ++ rest) = number false (natChars k ++ rest) := by
      rw [hd]
      exact value_digit depth hlt _
    rw [hvalue]
    exact number_integer false k hr
  · obtain rfl := denotes_minus.mp hn
    rw [List.cons_append, value_minus]
    exact number_integer true k hr

theorem Integer.begins {t : List Char} (h : Integer t) : Begins t := by
  obtain ⟨ds, hwhole, ht⟩ := h
  obtain ⟨k, rfl⟩ := whole_iff.mp hwhole
  rcases ht with rfl | rfl
  · obtain ⟨d, r, hd, hlt⟩ := natChars_begins k
    exact ⟨_, _, hd, digitChar_begins d hlt⟩
  · exact ⟨_, _, rfl, by decide⟩

/-- An integer is a value, if there is a double for it. -/
theorem Integer.value {t : List Char} {n : Int} (ht : Integer t) (hn : Denotes t n) {v : Json}
    (hv : integerValue? t n = some v) (depth : Nat) : Value depth t v := by
  have hread := value_integer ht hn depth .nil
  rw [hv, List.append_nil] at hread
  obtain ⟨p, hp⟩ : ∃ p, Json.value depth t = .ok p := by
    cases hp : Json.value depth t with
    | error f =>
      rw [hp] at hread
      cases hread
    | ok p => exact ⟨p, rfl⟩
  rw [hp] at hread
  cases hread
  obtain ⟨w, t', hw, heq, hvalue⟩ := (value_reads depth).sound hp
  rw [List.append_nil] at heq
  cases w with
  | nil => exact heq ▸ hvalue
  | cons c w =>
    -- The integer does not begin with a blank.
    obtain ⟨c', r, hbegins, hspace, -⟩ := ht.begins
    rw [hbegins] at heq
    rw [(List.cons.inj heq).1, hw c List.mem_cons_self] at hspace
    cases hspace

/-- What is read of an integer is written so that it says the integer. -/
def Kept (n : Int) : Prop :=
  Fits n ∨ ∃ x, roundedInt? n = some x ∧ Denotes (floatChars x) n

instance (n : Int) : Decidable (Kept n) :=
  match h : roundedInt? n with
  | none => decidable_of_iff (Fits n)
      ⟨.inl, fun hn => hn.elim id fun ⟨_, hx, _⟩ => by cases h.symm.trans hx⟩
  | some x => decidable_of_iff (Fits n ∨ Denotes (floatChars x) n)
      ⟨.imp_right fun hn => ⟨x, h, hn⟩, .imp_right fun ⟨_, hy, hn⟩ => by cases h.symm.trans hy; exact hn⟩

/-- What is written for an integer that was read says it just if it is kept; where nothing was read,
null is written, which says nothing. -/
theorem denotes_integerValue {t : List Char} {n : Int} (hn : Denotes t n) :
    Denotes ((integerValue? t n).getD .null).chars n ↔ Kept n := by
  unfold integerValue?
  split
  · rename_i ht
    obtain rfl := hn.unique (by rw [ht]; decide : Denotes t 0)
    refine iff_of_true ?_ (.inl (by decide))
    rw [Option.getD_some, chars]
    decide
  · split
    · rename_i hfits
      exact iff_of_true (denotes_intChars n) (.inl hfits)
    · rename_i hfits
      rw [Kept, or_iff_right hfits]
      cases hrounded : roundedInt? n with
      | none =>
        refine iff_of_false ?_ (by rintro ⟨x, hx, -⟩; cases hx)
        rintro ⟨p, hp, -⟩
        cases hp
      | some x =>
        constructor
        · exact fun h => ⟨x, rfl, h⟩
        · rintro ⟨y, hy, h⟩
          cases hy
          exact h

end Json

end LuaSession
