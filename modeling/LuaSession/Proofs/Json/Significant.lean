import LuaSession.Proofs.Json.Integers
import LuaSession.Proofs.Number.Shortest

/-!
# Significant digits

What is written for a double says a number of seventeen digits, up to a power of ten. So an integer that
is read as a double comes back only if it has no more digits than that, but for zeros at its end.

* `Significant`: an integer has at most so many digits, but for zeros at its end.
* `Spells`: the digits of a numeral say a number, up to a power of ten.
* `spells_magnitudeChars`: those that are written for a magnitude.
* `Kept.significant`: the integers that are kept.
-/

namespace LuaSession.Json

open Number

/-- The integer has at most so many digits, but for zeros at its end. -/
def Significant (count : Nat) (n : Int) : Prop :=
  ∃ d k : Nat, d < 10 ^ count ∧ n.natAbs = d * 10 ^ k

/-- An integer that is such a number up to a power of ten, which may be negative. -/
theorem significant_of_scaled {count d a b : Nat} {n : Int} (hd : d < 10 ^ count)
    (h : n.natAbs * 10 ^ a = d * 10 ^ b) : Significant count n := by
  have hpos (k : Nat) : 0 < 10 ^ k := Nat.pow_pos (by decide)
  obtain ⟨k, rfl⟩ | ⟨k, rfl⟩ : (∃ k, b = k + a) ∨ ∃ k, a = k + b := by
    rcases Nat.le_total a b with hle | hle
    · exact .inl ⟨b - a, (Nat.sub_add_cancel hle).symm⟩
    · exact .inr ⟨a - b, (Nat.sub_add_cancel hle).symm⟩
  · rw [Nat.pow_add, ← Nat.mul_assoc] at h
    exact ⟨d, k, hd, Nat.eq_of_mul_eq_mul_right (hpos a) h⟩
  · rw [Nat.pow_add, ← Nat.mul_assoc] at h
    have hn : n.natAbs * 10 ^ k = d := Nat.eq_of_mul_eq_mul_right (hpos b) h
    refine ⟨n.natAbs, 0, ?_, by rw [Nat.pow_zero, Nat.mul_one]⟩
    calc n.natAbs ≤ n.natAbs * 10 ^ k := Nat.le_mul_of_pos_right _ (hpos k)
      _ = d := hn
      _ < 10 ^ count := hd

/-! ### What digits say -/

/-- The digits of a numeral, with a point between them or without, say a number up to a power of ten. -/
def Spells (n : Nat) (t : List Char) : Prop :=
  ∃ a b rest k, a ≠ [] ∧ (∀ d ∈ a ++ b, d < 10) ∧ NoDigit rest ∧ ofDigits (a ++ b) = n * 10 ^ k ∧
    (b = [] ∧ (∀ r, rest ≠ '.' :: r) ∧ t = digitText a ++ rest ∨
      t = digitText a ++ '.' :: (digitText b ++ rest))

/-- A point without digits behind it is in no numeral. -/
theorem numeralValue_bare {ds : List Nat} (hlt : ∀ d ∈ ds, d < 10) {rest : List Char} (hrest : NoDigit rest) :
    numeralValue? (digitText ds ++ '.' :: rest) = none := by
  have hpoint : NoDigit ('.' :: rest) := by
    rintro c r ⟨⟩
    rfl
  have hnone : digitSpan rest = ([], rest) := digitSpan_digits (List.forall_mem_nil _) hrest
  unfold numeralValue?
  rw [digitText, digitSpan_digits hlt hpoint]
  cases ds with
  | nil => rfl
  | cons d ds => simp only [hnone]

/-- So does the numeral, if it is one. -/
theorem Spells.numeral {n : Nat} {t : List Char} (h : Spells n t) {p : Nat × Int}
    (hp : numeralValue? t = some p) : ∃ k, p.1 = n * 10 ^ k := by
  obtain ⟨a, b, rest, k, ha, hlt, hrest, hvalue, ⟨rfl, hpoint, rfl⟩ | rfl⟩ := h
  · rw [List.append_nil] at hlt hvalue
    rw [numeralValue_digits ha hlt hrest hpoint, Option.map_eq_some_iff] at hp
    obtain ⟨e, -, rfl⟩ := hp
    exact ⟨k, hvalue⟩
  · obtain ⟨hlta, hltb⟩ := List.forall_mem_append.mp hlt
    by_cases hb : b = []
    · subst hb
      cases (numeralValue_bare hlta hrest).symm.trans hp
    · rw [numeralValue_point ha hlta hb hltb hrest, Option.map_eq_some_iff] at hp
      obtain ⟨e, -, rfl⟩ := hp
      exact ⟨k, hvalue⟩

theorem Spells.unsigned {n : Nat} {t : List Char} (h : Spells n t) (r : List Char) : t ≠ '-' :: r := by
  obtain ⟨a, b, rest, k, ha, hlt, -, -, hforms⟩ := h
  cases a with
  | nil => exact absurd rfl ha
  | cons d a =>
    have hd := digitChar_ne_minus d (hlt d List.mem_cons_self)
    rintro rfl
    rcases hforms with ⟨-, -, heq⟩ | heq
    · exact hd (List.cons.inj heq).1.symm
    · exact hd (List.cons.inj heq).1.symm

/-! ### The digits that are written -/

theorem ofDigits_zeros (z : Nat) : ofDigits (List.replicate z 0) = 0 := by
  induction z with
  | zero => rfl
  | succ z ih =>
    rw [List.replicate_succ', ofDigits_append, ih]
    rfl

theorem digitText_append (ds ds' : List Nat) : digitText (ds ++ ds') = digitText ds ++ digitText ds' :=
  List.map_append

theorem digitText_zeros (z : Nat) : digitText (List.replicate z 0) = List.replicate z '0' :=
  List.map_replicate

theorem zeros_lt (z : Nat) : ∀ d ∈ List.replicate z 0, d < 10 := by
  intro d hd
  rw [List.eq_of_mem_replicate hd]
  decide

/-- What is written positionally. -/
theorem spells_positional {d : Decimal} (h : ∀ x ∈ d.digits, x < 10) :
    Spells (ofDigits d.digits) (d.positional true) := by
  have hnone : NoDigit [] := nofun
  unfold Decimal.positional
  dsimp only
  split
  case isTrue =>
    refine ⟨[0], List.replicate (-d.exponent - 1).toNat 0 ++ d.digits, [], 0, nofun, ?_, hnone, ?_, .inr ?_⟩
    · exact List.forall_mem_append.mpr ⟨zeros_lt 1, List.forall_mem_append.mpr ⟨zeros_lt _, h⟩⟩
    · rw [ofDigits_append, ofDigits_append, ofDigits_zeros]
      simp [ofDigits]
    · rw [List.append_nil, digitText_append, digitText_zeros]
      rfl
  case isFalse =>
    generalize hwhole : d.exponent.toNat + 1 = whole
    have hpos : 0 < whole := by omega
    split
    case isTrue hfew =>
      refine ⟨d.digits ++ List.replicate (whole - d.digits.length) 0, [0], [], whole - d.digits.length + 1,
        ?_, ?_, hnone, ?_, .inr ?_⟩
      · intro hnil
        have hlength := congrArg List.length hnil
        rw [List.length_append, List.length_replicate, List.length_nil] at hlength
        omega
      · exact List.forall_mem_append.mpr ⟨List.forall_mem_append.mpr ⟨h, zeros_lt _⟩, zeros_lt 1⟩
      · rw [ofDigits_append, ofDigits_append, ofDigits_zeros, List.length_replicate, Nat.pow_succ]
        simp [ofDigits, Nat.mul_assoc]
      · rw [digitText_append, digitText_zeros]
        rfl
    case isFalse hmany =>
      refine ⟨d.digits.take whole, d.digits.drop whole, [], 0, ?_, ?_, hnone, ?_, .inr ?_⟩
      · intro hnil
        have hlength := congrArg List.length hnil
        rw [List.length_take, List.length_nil] at hlength
        omega
      · rw [List.take_append_drop]
        exact h
      · rw [List.take_append_drop, Nat.pow_zero, Nat.mul_one]
      · rw [List.append_nil]

/-- What is written with a point behind the first digit, and an exponent. -/
theorem spells_pointed {d : Decimal} (h : ∀ x ∈ d.digits, x < 10) (rest : List Char) :
    Spells (ofDigits d.digits) (d.pointed ++ 'e' :: rest) := by
  have hmark : NoDigit ('e' :: rest) := by
    rintro c r ⟨⟩
    rfl
  have hpoint (r : List Char) : 'e' :: rest ≠ '.' :: r := by
    rintro ⟨⟩
  unfold Decimal.pointed
  split
  case h_1 hdigits =>
    rw [hdigits]
    exact ⟨[0], [], _, 0, nofun, zeros_lt 1, hmark, rfl, .inl ⟨rfl, hpoint, rfl⟩⟩
  case h_2 x hdigits =>
    rw [hdigits] at h ⊢
    refine ⟨[x], [], _, 0, nofun, h, hmark, ?_, .inl ⟨rfl, hpoint, rfl⟩⟩
    rw [List.append_nil, Nat.pow_zero, Nat.mul_one]
  case h_3 x r _ hdigits =>
    rw [hdigits] at h ⊢
    refine ⟨[x], r, _, 0, nofun, h, hmark, ?_, .inr rfl⟩
    rw [List.singleton_append, Nat.pow_zero, Nat.mul_one]

/-- What is written for a magnitude of a double spells no more than seventeen digits. -/
theorem spells_magnitudeChars {x : Float} {negative : Bool} {m : Magnitude}
    (h : reading x = .finite negative m) : ∃ n < 10 ^ 17, Spells n (magnitudeChars m) := by
  have hlt := m.shortest_lt
  unfold magnitudeChars
  split
  case isTrue =>
    exact ⟨0, by decide, [0], [0], [], 0, nofun, zeros_lt 2, nofun, rfl, .inr rfl⟩
  case isFalse hzero =>
    have hproper : m.Proper := proper_reading h (Nat.pos_of_ne_zero fun heq => hzero (beq_iff_eq.mpr heq))
    refine ⟨_, m.ofDigits_shortest hproper, ?_⟩
    dsimp only
    split
    · exact spells_positional hlt
    · exact spells_pointed hlt _

/-! ### Integers that are read as doubles -/

/-- An integer that the written form of a double says. -/
theorem Denotes.significant {x : Float} {n : Int} (h : Denotes (floatChars x) n) : Significant 17 n := by
  obtain ⟨p, hp, hn⟩ := h
  unfold floatChars at hp
  split at hp
  case h_1 negative m hm =>
    obtain ⟨d, hd, hspells⟩ := spells_magnitudeChars hm
    obtain ⟨q, hq, habs⟩ : ∃ q, numeralValue? (magnitudeChars m) = some q ∧ p.1.natAbs = q.1 := by
      cases negative with
      | true =>
        obtain ⟨q, hq, rfl⟩ := Option.map_eq_some_iff.mp hp
        exact ⟨q, hq, by simp⟩
      | false =>
        have hsigned := (signedValue_unsigned hspells.unsigned).symm.trans hp
        obtain ⟨q, hq, rfl⟩ := Option.map_eq_some_iff.mp hsigned
        exact ⟨q, hq, by simp⟩
    obtain ⟨k, hk⟩ := hspells.numeral hq
    have hscaled := congrArg Int.natAbs hn
    rw [Int.natAbs_mul, Int.natAbs_mul, Int.natAbs_pow, Int.natAbs_pow, habs, hk] at hscaled
    refine significant_of_scaled (a := (-p.2).toNat) (b := k + p.2.toNat) hd ?_
    rw [Nat.pow_add, ← Nat.mul_assoc]
    exact hscaled.symm
  case h_2 => cases hp

/-- **What is kept.** An integer that is kept has 64 bits, or seventeen digits at most, but for zeros at its
end. -/
theorem Kept.significant {n : Int} (h : Kept n) : Fits n ∨ Significant 17 n := by
  rcases h with hfits | ⟨x, -, hdenotes⟩
  · exact .inl hfits
  · exact .inr hdenotes.significant

end LuaSession.Json
