import Mathlib.Algebra.Order.Field.Power
import Mathlib.Algebra.Order.Floor.Semifield
import Mathlib.Data.Rat.Floor
import Mathlib.Tactic.Linarith
import Mathlib.Tactic.Positivity
import Mathlib.Tactic.Ring
import LuaSession.Number.Decimal

/-!
# How long the shortest decimal of a double is

The power of ten of a magnitude is estimated from binary lengths, and put right by two comparisons. With
seventeen digits the decimals stand closer together than the reals that round to one double reach; so one
of the two decimals around a double is among them, and the search for the shortest ends there.

* `magnitude10_spec`: the power of ten of a fraction.
* `Interval.nearest_seventeen`: seventeen digits are enough for an interval that is wide enough.
* `Magnitude.interval_wide`: those of doubles are.
* `Magnitude.ofDigits_shortest`: what the digits of the shortest decimal are, at most.
-/

namespace LuaSession.Number

/-! ### Powers of ten -/

section Powers

variable {den : Nat}

/-- A fraction that is scaled by a power of ten. -/
theorem scale10_spec (num : Nat) (hden : 0 < den) (e : Int) : 0 < (scale10 num den e).2 ∧
    ((scale10 num den e).1 : ℚ) / (scale10 num den e).2 = num / den * 10 ^ e := by
  unfold scale10
  split
  · rename_i he
    obtain ⟨k, rfl⟩ := Int.eq_ofNat_of_zero_le he
    refine ⟨hden, ?_⟩
    simp only [Int.toNat_natCast, Nat.pow_eq, Nat.cast_mul, Nat.cast_pow, Nat.cast_ofNat, zpow_natCast]
    ring
  · rename_i he
    obtain ⟨k, hk⟩ := Int.eq_ofNat_of_zero_le (a := -e) (by omega)
    obtain rfl : e = -(k : Int) := by omega
    refine ⟨Nat.mul_pos hden (Nat.pow_pos (by decide)), ?_⟩
    simp only [neg_neg, Int.toNat_natCast, Nat.pow_eq, Nat.cast_mul, Nat.cast_pow, Nat.cast_ofNat,
      zpow_neg, zpow_natCast]
    rw [← div_div, div_eq_mul_inv]

theorem reaches10_iff (num : Nat) (hden : 0 < den) (e : Int) :
    reaches10 num den e = true ↔ (10 : ℚ) ^ e ≤ num / den := by
  obtain ⟨hpos, hscale⟩ := scale10_spec num hden (-e)
  have hpow : (0 : ℚ) < 10 ^ e := by positivity
  have hd : (0 : ℚ) < (scale10 num den (-e)).2 := by exact_mod_cast hpos
  unfold reaches10
  simp only [decide_eq_true_eq]
  rw [← Nat.cast_le (α := ℚ), ← one_le_div hd, hscale, zpow_neg, ← div_eq_mul_inv, one_le_div hpow]

/-- A power with an exponent that may be negative, as a fraction. -/
theorem zpow_fraction (a : Nat) (x : Int) :
    (a : ℚ) ^ x = ((a ^ x.toNat : Nat) : ℚ) / ((a ^ (-x).toNat : Nat) : ℚ) := by
  obtain ⟨k, rfl | rfl⟩ := x.eq_nat_or_neg
  · simp
  · simp

theorem zpow_le_iff {a b : Nat} (ha : 0 < a) (hb : 0 < b) (x y : Int) : (a : ℚ) ^ x ≤ (b : ℚ) ^ y ↔
    a ^ x.toNat * b ^ (-y).toNat ≤ b ^ y.toNat * a ^ (-x).toNat := by
  have hpos {c : Nat} (hc : 0 < c) (k : Nat) : (0 : ℚ) < ((c ^ k : Nat) : ℚ) := by
    exact_mod_cast Nat.pow_pos hc
  rw [zpow_fraction, zpow_fraction, div_le_div_iff₀ (hpos ha _) (hpos hb _)]
  exact_mod_cast Iff.rfl

/-- A power of ten in two steps, of which one does not go down. -/
theorem zpow_step {x y : Int} {n : Nat} (h : x = n + y) : (10 : ℚ) ^ x = 10 ^ n * 10 ^ y := by
  rw [h, zpow_add₀ (by norm_num), zpow_natCast]

/-- Whether the estimate of a power of ten from a binary length is two too great at most, and one too
small. -/
def estimates (bits : Int) : Bool :=
  let guess := bits * 30103 / 100000
  decide (Nat.pow 10 (guess - 2).toNat * Nat.pow 2 (-(bits - 2)).toNat ≤
      Nat.pow 2 (bits - 2).toNat * Nat.pow 10 (-(guess - 2)).toNat) &&
    decide (Nat.pow 2 bits.toNat * Nat.pow 10 (-(guess + 2)).toNat ≤
      Nat.pow 10 (guess + 2).toNat * Nat.pow 2 (-bits).toNat)

/-- For the binary lengths of doubles it is. -/
theorem estimates_all : (List.range 2401).all (fun i => estimates ((i : Int) - 1200)) = true := by
  decide +kernel

theorem estimate_near (bits : Int) (hlow : -1200 ≤ bits) (hhigh : bits ≤ 1200) :
    (10 : ℚ) ^ (bits * 30103 / 100000 - 2) ≤ 2 ^ (bits - 2) ∧
      (2 : ℚ) ^ bits ≤ 10 ^ (bits * 30103 / 100000 + 2) := by
  have h := List.all_eq_true.mp estimates_all (bits + 1200).toNat (List.mem_range.mpr (by omega))
  have hbits : (((bits + 1200).toNat : Nat) : Int) - 1200 = bits := by omega
  rw [hbits, estimates, Bool.and_eq_true, decide_eq_true_eq, decide_eq_true_eq] at h
  exact ⟨(zpow_le_iff (a := 10) (b := 2) (by decide) (by decide) _ _).mpr h.1,
    (zpow_le_iff (a := 2) (b := 10) (by decide) (by decide) _ _).mpr h.2⟩

/-- A fraction is told from the binary lengths of its parts but for a factor of four. -/
theorem ratio_between {num : Nat} (hnum : 0 < num) (hden : 0 < den) :
    (2 : ℚ) ^ ((num.log2 : Int) - den.log2 - 1) ≤ num / den ∧
      (num : ℚ) / den < 2 ^ ((num.log2 : Int) - den.log2 + 1) := by
  have hd : (0 : ℚ) < den := by exact_mod_cast hden
  have hnumlow : (2 : ℚ) ^ num.log2 ≤ num := by exact_mod_cast Nat.log2_self_le hnum.ne'
  have hnumhigh : (num : ℚ) < 2 ^ (num.log2 + 1) := by exact_mod_cast Nat.lt_log2_self
  have hdenlow : (2 : ℚ) ^ den.log2 ≤ den := by exact_mod_cast Nat.log2_self_le hden.ne'
  have hdenhigh : (den : ℚ) < 2 ^ (den.log2 + 1) := by exact_mod_cast Nat.lt_log2_self
  constructor
  · have hpow : (2 : ℚ) ^ ((num.log2 : Int) - den.log2 - 1) = 2 ^ num.log2 / 2 ^ (den.log2 + 1) := by
      rw [sub_sub, zpow_sub₀ (by norm_num), zpow_natCast]
      exact_mod_cast rfl
    rw [hpow]
    exact div_le_div₀ (by positivity) hnumlow hd hdenhigh.le
  · have hpow : (2 : ℚ) ^ ((num.log2 : Int) - den.log2 + 1) = 2 ^ (num.log2 + 1) / 2 ^ den.log2 := by
      rw [sub_add_eq_add_sub, zpow_sub₀ (by norm_num), zpow_natCast]
      exact_mod_cast rfl
    rw [hpow]
    exact div_lt_div₀ hnumhigh hdenlow (by positivity) (by positivity)

/-- The power of ten of a fraction that is about as large as a double. -/
theorem magnitude10_spec {num : Nat} (hnum : 0 < num) (hden : 0 < den)
    (hlow : -1201 ≤ (num.log2 : Int) - den.log2) (hhigh : (num.log2 : Int) - den.log2 < 1200) :
    (10 : ℚ) ^ magnitude10 num den ≤ num / den ∧ (num : ℚ) / den < 10 ^ (magnitude10 num den + 1) := by
  obtain ⟨hge, hlt⟩ := ratio_between hnum hden
  obtain ⟨hestlow, hesthigh⟩ := estimate_near ((num.log2 : Int) - den.log2 + 1) (by omega) (by omega)
  have hbits : (num.log2 : Int) - den.log2 + 1 - 2 = num.log2 - den.log2 - 1 := by omega
  rw [hbits] at hestlow
  unfold magnitude10
  dsimp only
  generalize ((num.log2 : Int) - den.log2 + 1) * 30103 / 100000 = guess at *
  have hreach (e : Int) := reaches10_iff num hden e
  -- A comparison that fails bounds the fraction from above, and one that holds from below; the estimate
  -- itself is needed only where both hold, and where both fail.
  split
  · rename_i hguess
    split
    · rename_i hnext
      refine ⟨(hreach _).mp hnext, ?_⟩
      rw [add_assoc]
      exact hlt.trans_le hesthigh
    · rename_i hnext
      exact ⟨(hreach _).mp hguess, not_le.mp (mt (hreach _).mpr hnext)⟩
  · rename_i hguess
    split
    · rename_i hbefore
      refine ⟨(hreach _).mp hbefore, ?_⟩
      rw [sub_add_cancel]
      exact not_le.mp (mt (hreach _).mpr hguess)
    · rename_i hbefore
      refine ⟨hestlow.trans hge, ?_⟩
      have hnext : guess - 2 + 1 = guess - 1 := by omega
      rw [hnext]
      exact not_le.mp (mt (hreach _).mpr hbefore)

end Powers

/-! ### Intervals -/

/-- An interval around a value that is as wide as the seventeenth digit of the value asks for. -/
structure Interval.Wide (i : Interval) : Prop where
  den : 0 < i.den
  value : 0 < i.value
  low : i.low < i.value
  high : i.value < i.high
  wide : i.value < (i.high - i.low) * 10 ^ 16

section Intervals

variable {i : Interval} {e : Int} {k : Nat}

/-- What lies between the bounds is in the interval, whether or not these are. -/
theorem Interval.contains_between {num den : Nat} (hi : 0 < i.den) (hden : 0 < den)
    (hlow : (i.low : ℚ) / i.den < num / den) (hhigh : (num : ℚ) / den < i.high / i.den) :
    i.contains num den = true := by
  have hid : (0 : ℚ) < i.den := by exact_mod_cast hi
  have hd : (0 : ℚ) < den := by exact_mod_cast hden
  rw [div_lt_div_iff₀ hid hd] at hlow
  rw [div_lt_div_iff₀ hd hid] at hhigh
  have hlow' : i.low * den < num * i.den := by exact_mod_cast hlow
  have hhigh' : num * i.den < i.high * den := by exact_mod_cast hhigh
  unfold contains
  dsimp only
  split
  · simp [hlow'.le, hhigh'.le]
  · simp [hlow', hhigh']

/-- How many multiples of a power of ten are below the value of an interval. -/
def Interval.below (i : Interval) (e : Int) : Nat :=
  (scale10 i.value i.den (-e)).1 / (scale10 i.value i.den (-e)).2

/-- The multiple is in the interval. -/
def Interval.holds (i : Interval) (e : Int) (k : Nat) : Bool :=
  i.contains (scale10 k 1 e).1 (scale10 k 1 e).2

theorem Interval.below_spec (hi : 0 < i.den) (e : Int) :
    (i.below e : ℚ) * 10 ^ e ≤ i.value / i.den ∧ (i.value : ℚ) / i.den < (i.below e + 1) * 10 ^ e := by
  obtain ⟨hpos, hscale⟩ := scale10_spec i.value hi (-e)
  have hpow : (0 : ℚ) < 10 ^ e := by positivity
  rw [zpow_neg, ← div_eq_mul_inv] at hscale
  have hfloor : i.below e = ⌊(i.value : ℚ) / i.den / 10 ^ e⌋₊ := by
    rw [below, ← Nat.floor_div_eq_div (K := ℚ), hscale]
  rw [hfloor]
  constructor
  · rw [← le_div_iff₀ hpow]
    exact Nat.floor_le (by positivity)
  · rw [← div_lt_iff₀ hpow]
    exact Nat.lt_floor_add_one _

theorem Interval.holds_between (hi : 0 < i.den) (hlow : (i.low : ℚ) / i.den < k * 10 ^ e)
    (hhigh : (k : ℚ) * 10 ^ e < i.high / i.den) : i.holds e k = true := by
  obtain ⟨hpos, hscale⟩ := scale10_spec k Nat.one_pos e
  rw [Nat.cast_one, div_one] at hscale
  rw [← hscale] at hlow hhigh
  exact contains_between hi hpos hlow hhigh

/-- The nearest multiple is one of the two around the value. -/
theorem Interval.nearest_cases (h : i.nearest? e = some k) : k = i.below e ∨ k = i.below e + 1 := by
  unfold nearest? at h
  dsimp only at h
  split at h
  · split at h
    · cases h
      exact .inl rfl
    · split at h
      · cases h
        exact .inr rfl
      · cases h
        split
        · exact .inl rfl
        · exact .inr rfl
  · cases h
    exact .inl rfl
  · cases h
    exact .inr rfl
  · cases h

/-- If there is none, neither of the two is in the interval. -/
theorem Interval.nearest_none (h : i.nearest? e = none) :
    i.holds e (i.below e) = false ∧ i.holds e (i.below e + 1) = false := by
  unfold nearest? at h
  dsimp only at h
  split at h
  · split at h
    · cases h
    · split at h <;> cases h
  · cases h
  · cases h
  · rename_i hbelow habove
    exact ⟨hbelow, habove⟩

/-- Seventeen digits are enough: one of the two multiples around the value is in the interval. -/
theorem Interval.nearest_seventeen (hi : i.Wide) {top : Int} (htop : (10 : ℚ) ^ top ≤ i.value / i.den) :
    ∃ k, i.nearest? (top - 16) = some k ∧ 0 < k := by
  have hid : (0 : ℚ) < i.den := by exact_mod_cast hi.den
  obtain ⟨hbelow, habove⟩ := below_spec hi.den (top - 16)
  have hlow : (i.low : ℚ) / i.den < i.value / i.den :=
    div_lt_div_of_pos_right (by exact_mod_cast hi.low) hid
  have hhigh : (i.value : ℚ) / i.den < i.high / i.den :=
    div_lt_div_of_pos_right (by exact_mod_cast hi.high) hid
  have hwide : (i.value : ℚ) / i.den < (i.high / i.den - i.low / i.den) * 10 ^ 16 := by
    have hle : i.low ≤ i.high := (hi.low.trans hi.high).le
    rw [← sub_div, div_mul_eq_mul_div, div_lt_div_iff_of_pos_right hid, ← Nat.cast_sub hle]
    exact_mod_cast hi.wide
  have hstep : (10 : ℚ) ^ top = 10 ^ 16 * 10 ^ (top - 16) := zpow_step (by omega)
  cases hnearest : i.nearest? (top - 16) with
  | some k =>
    have hpow : (0 : ℚ) < 10 ^ (top - 16) := by positivity
    have hmany : (10 : ℚ) ^ 16 < i.below (top - 16) + 1 := by
      refine lt_of_mul_lt_mul_right ?_ hpow.le
      rw [← hstep]
      exact htop.trans_lt habove
    have hmany' : 10 ^ 16 < i.below (top - 16) + 1 := by exact_mod_cast hmany
    refine ⟨k, rfl, ?_⟩
    rcases nearest_cases hnearest with rfl | rfl
    · omega
    · exact Nat.succ_pos _
  | none =>
    exfalso
    obtain ⟨hout, hout'⟩ := nearest_none hnearest
    -- The two multiples are a step apart, and the bounds stand between them.
    have hfirst : (i.below (top - 16) : ℚ) * 10 ^ (top - 16) ≤ i.low / i.den := by
      by_contra hlt
      rw [holds_between hi.den (not_le.mp hlt) (hbelow.trans_lt hhigh)] at hout
      cases hout
    have hsecond : (i.high : ℚ) / i.den ≤ (i.below (top - 16) + 1) * 10 ^ (top - 16) := by
      by_contra hlt
      have hlast := holds_between (k := i.below (top - 16) + 1) (e := top - 16) hi.den
        (by push_cast; exact hlow.trans habove) (by push_cast; exact not_le.mp hlt)
      rw [hlast] at hout'
      cases hout'
    linarith

/-! ### Digits -/

theorem foldl_digits (ds : List Nat) (a : Nat) :
    ds.foldl (fun a d => a * 10 + d) a = a * 10 ^ ds.length + ofDigits ds := by
  induction ds generalizing a with
  | nil => simp [ofDigits]
  | cons d ds ih =>
    rw [ofDigits, List.foldl_cons, List.foldl_cons, ih, ih, List.length_cons, pow_succ]
    ring

theorem ofDigits_append (ds ds' : List Nat) :
    ofDigits (ds ++ ds') = ofDigits ds * 10 ^ ds'.length + ofDigits ds' := by
  rw [ofDigits, List.foldl_append, foldl_digits]
  rfl

/-- Without zeros at the end there are as many digits, or fewer. -/
theorem ofDigits_stripZeros (ds : List Nat) : ofDigits (stripZeros ds) ≤ ofDigits ds := by
  have hds : stripZeros ds ++ (ds.reverse.takeWhile (· == 0)).reverse = ds := by
    rw [stripZeros, ← List.reverse_append, List.takeWhile_append_dropWhile, List.reverse_reverse]
  calc ofDigits (stripZeros ds)
      ≤ ofDigits (stripZeros ds) * 10 ^ (ds.reverse.takeWhile (· == 0)).reverse.length :=
        Nat.le_mul_of_pos_right _ (Nat.pow_pos (by decide))
    _ ≤ ofDigits (stripZeros ds ++ (ds.reverse.takeWhile (· == 0)).reverse) := by
        rw [ofDigits_append]
        exact Nat.le_add_right _ _
    _ = ofDigits ds := by rw [hds]

theorem ofDigits_stripped {k : Nat} (h : k ≤ 10 ^ 17) : ofDigits (stripZeros (toDigits k)) < 10 ^ 17 := by
  obtain hlt | rfl := Nat.lt_or_eq_of_le h
  · calc ofDigits (stripZeros (toDigits k)) ≤ ofDigits (toDigits k) := ofDigits_stripZeros _
      _ = k := ofDigits_toDigits k
      _ < 10 ^ 17 := hlt
  · decide

end Intervals

/-! ### The search -/

section Search

variable {i : Interval} {top : Int} {count left k : Nat}

/-- With some number of digits, a multiple has no more, but for a power of ten. -/
theorem Interval.nearest_le (hden : 0 < i.den) (hbelow : (i.value : ℚ) / i.den < 10 ^ (top + 1))
    (h : i.nearest? (top - count + 1) = some k) : k ≤ 10 ^ count := by
  have hpow : (0 : ℚ) < 10 ^ (top - count + 1) := by positivity
  have hstep : (10 : ℚ) ^ (top + 1) = 10 ^ count * 10 ^ (top - count + 1) := zpow_step (by omega)
  rw [hstep] at hbelow
  have hlt := lt_of_mul_lt_mul_right ((below_spec hden _).1.trans_lt hbelow) hpow.le
  have hfew : i.below (top - count + 1) < 10 ^ count := by exact_mod_cast hlt
  rcases nearest_cases h with rfl | rfl
  · exact hfew.le
  · exact hfew

/-- The search ends with the seventeenth digit, if not before. The induction is that of the search. -/
theorem Interval.ofDigits_shortestFrom (hi : i.Wide) (htop : (10 : ℚ) ^ top ≤ i.value / i.den)
    (hbelow : (i.value : ℚ) / i.den < 10 ^ (top + 1)) (hcount : count + left = 18) (hleft : 0 < left) :
    ofDigits (i.shortestFrom top count left).digits < 10 ^ 17 := by
  have hlast (count : Nat) (h : count = 17) : ∃ k, i.nearest? (top - count + 1) = some k ∧ 0 < k := by
    have hplace : top - (count : Int) + 1 = top - 16 := by omega
    rw [hplace]
    exact nearest_seventeen hi htop
  fun_induction Interval.shortestFrom i top count left with
  | case1 count => exact absurd hleft (Nat.lt_irrefl 0)
  | case2 count left k hk hzero ih =>
    -- This cannot be the last count, where the multiple is not zero.
    refine ih (by omega) (Nat.pos_of_ne_zero ?_)
    rintro rfl
    obtain ⟨k', hk', hpos⟩ := hlast count (by omega)
    cases hk.symm.trans hk'
    exact absurd (beq_iff_eq.mp hzero) hpos.ne'
  | case3 count left k hk ds hzero =>
    refine ofDigits_stripped ((nearest_le hi.den hbelow hk).trans ?_)
    exact Nat.pow_le_pow_right (by decide) (by omega)
  | case4 count left hk ih =>
    refine ih (by omega) (Nat.pos_of_ne_zero ?_)
    rintro rfl
    obtain ⟨k', hk', -⟩ := hlast count (by omega)
    cases hk.symm.trans hk'

end Search

/-! ### Doubles -/

/-- A magnitude as doubles have it, other than zero. -/
structure Magnitude.Proper (m : Magnitude) : Prop where
  pos : 0 < m.mantissa
  lt : m.mantissa < 2 ^ 53
  narrow : m.narrow = true → m.mantissa = 2 ^ 52
  low : -1074 ≤ m.exponent
  high : m.exponent ≤ 971

/-- What is read of a double is such a magnitude, or zero. -/
theorem proper_reading {x : Float} {negative : Bool} {m : Magnitude} (h : reading x = .finite negative m)
    (hpos : 0 < m.mantissa) : m.Proper := by
  unfold reading Reading.ofBits at h
  dsimp only at h
  split at h
  · split at h <;> cases h
  · rename_i hfinite
    rw [beq_iff_eq] at hfinite
    split at h
    · cases h
      exact ⟨hpos, by dsimp only; omega, nofun, Int.le_refl _, by dsimp only; omega⟩
    · rename_i hnormal
      rw [beq_iff_eq] at hnormal
      cases h
      refine ⟨hpos, by dsimp only; omega, fun hnarrow => ?_, by dsimp only; omega, by dsimp only; omega⟩
      rw [Bool.and_eq_true, beq_iff_eq] at hnarrow
      dsimp only
      rw [hnarrow.1]
      rfl

theorem Magnitude.interval_wide {m : Magnitude} (hm : m.Proper) : m.interval.Wide := by
  have hpos := hm.pos
  have hlt := hm.lt
  obtain ⟨w, hw, hone, htwo, hwide⟩ :
      ∃ w, (if m.narrow then 1 else 2) = w ∧ 1 ≤ w ∧ w ≤ 2 ∧ 4 * m.mantissa < (2 + w) * 10 ^ 16 := by
    cases hnarrow : m.narrow with
    | false => exact ⟨2, rfl, by omega, by omega, by omega⟩
    | true => exact ⟨1, rfl, by omega, by omega, by rw [hm.narrow hnarrow]; omega⟩
  unfold interval
  dsimp only
  rw [hw]
  have hunit : ∀ u : Nat × Nat, u = (if 2 ≤ m.exponent then (Nat.pow 2 (m.exponent - 2).toNat, 1)
      else (1, Nat.pow 2 (2 - m.exponent).toNat)) → 0 < u.1 ∧ 0 < u.2 := by
    rintro u rfl
    split
    · exact ⟨Nat.pow_pos (by decide), Nat.one_pos⟩
    · exact ⟨Nat.one_pos, Nat.pow_pos (by decide)⟩
  obtain ⟨hfirst, hsecond⟩ := hunit _ rfl
  generalize (if 2 ≤ m.exponent then (Nat.pow 2 (m.exponent - 2).toNat, 1)
    else (1, Nat.pow 2 (2 - m.exponent).toNat)) = u at *
  refine ⟨hsecond, Nat.mul_pos (by omega) hfirst, Nat.mul_lt_mul_of_pos_right (by omega) hfirst,
    Nat.mul_lt_mul_of_pos_right (by omega) hfirst, ?_⟩
  have hspan : 4 * m.mantissa + 2 - (4 * m.mantissa - w) = 2 + w := by omega
  calc 4 * m.mantissa * u.1 < (2 + w) * 10 ^ 16 * u.1 := Nat.mul_lt_mul_of_pos_right hwide hfirst
    _ = ((4 * m.mantissa + 2) * u.1 - (4 * m.mantissa - w) * u.1) * 10 ^ 16 := by
      rw [← Nat.sub_mul, hspan, Nat.mul_right_comm]

/-- The binary lengths of the parts of a value are not far apart. -/
theorem Magnitude.interval_lengths {m : Magnitude} (hm : m.Proper) :
    -1201 ≤ (m.interval.value.log2 : Int) - m.interval.den.log2 ∧
      (m.interval.value.log2 : Int) - m.interval.den.log2 < 1200 := by
  have hpos := hm.pos
  have hlt := hm.lt
  have hlow := hm.low
  have hhigh := hm.high
  unfold interval
  dsimp only
  split
  · have hpow : 0 < 2 ^ (m.exponent - 2).toNat := Nat.pow_pos (by decide)
    have hlength : (4 * m.mantissa * 2 ^ (m.exponent - 2).toNat).log2 < 1100 := by
      rw [Nat.log2_lt (Nat.mul_pos (by omega) hpow).ne']
      calc 4 * m.mantissa * 2 ^ (m.exponent - 2).toNat
          < 2 ^ 55 * 2 ^ (m.exponent - 2).toNat := Nat.mul_lt_mul_of_pos_right (by omega) hpow
        _ = 2 ^ (55 + (m.exponent - 2).toNat) := (Nat.pow_add 2 _ _).symm
        _ ≤ 2 ^ 1100 := Nat.pow_le_pow_right (by decide) (by omega)
    have hone : Nat.log2 1 = 0 := rfl
    rw [Nat.pow_eq]
    dsimp only
    rw [hone]
    omega
  · have hlength : (4 * m.mantissa * 1).log2 < 55 := by
      rw [Nat.log2_lt (by omega)]
      omega
    rw [Nat.pow_eq, Nat.log2_two_pow]
    dsimp only
    omega

/-- The digits of the shortest decimal are at most seventeen. -/
theorem Magnitude.ofDigits_shortest {m : Magnitude} (hm : m.Proper) :
    ofDigits m.shortest.digits < 10 ^ 17 := by
  have hwide := interval_wide hm
  obtain ⟨hlow, hhigh⟩ := interval_lengths hm
  obtain ⟨htop, hbelow⟩ := magnitude10_spec hwide.value hwide.den hlow hhigh
  exact Interval.ofDigits_shortestFrom hwide htop hbelow rfl (by decide)

end LuaSession.Number
