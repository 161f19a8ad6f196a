import LuaSession.Proofs.Json.RoundTrip

/-!
# The characters of numbers

Numbers are written with digits, signs, a point and the mark of an exponent. So the written form of a
number has no comma in it, and it is not that of null unless it is a double that is not finite.

* `intChars_figures`, `floatChars_figures`: the characters of integers and of finite doubles.
* `chars_null`: which values are written as null.
-/

namespace LuaSession

/-! ### Digits -/

namespace Number

theorem stripZeros_lt {ds : List Nat} (h : ∀ d ∈ ds, d < 10) : ∀ d ∈ stripZeros ds, d < 10 := by
  intro d hd
  have hmem := (List.dropWhile_suffix _).subset (List.mem_reverse.mp hd)
  exact h d (List.mem_reverse.mp hmem)

theorem rounded_lt (num den count : Nat) : ∀ d ∈ (rounded num den count).digits, d < 10 := by
  unfold rounded
  dsimp only
  split
  · intro d hd
    rcases List.mem_cons.mp hd with rfl | hd
    · decide
    · rw [List.eq_of_mem_replicate hd]
      decide
  · exact Json.toDigits_lt _

theorem Interval.shortestFrom_lt (i : Interval) (top : Int) (count left : Nat) :
    ∀ d ∈ (i.shortestFrom top count left).digits, d < 10 := by
  fun_induction Interval.shortestFrom i top count left with
  | case1 count => exact rounded_lt _ _ count
  | case2 count left k hk hzero ih => exact ih
  | case3 count left k hk ds hzero => exact stripZeros_lt (Json.toDigits_lt k)
  | case4 count left hk ih => exact ih

theorem Magnitude.shortest_lt (m : Magnitude) : ∀ d ∈ m.shortest.digits, d < 10 :=
  m.interval.shortestFrom_lt _ 1 17

end Number

namespace Json

open Number

/-! ### Figures -/

/-- A character that numbers are written with. -/
def isFigure (c : Char) : Bool :=
  (digitValue? c).isSome || c == '-' || c == '+' || c == '.' || c == 'e'

@[simp] theorem isFigure_zero : isFigure '0' = true := rfl

@[simp] theorem isFigure_point : isFigure '.' = true := rfl

@[simp] theorem isFigure_mark : isFigure 'e' = true := rfl

theorem digitText_figures {ds : List Nat} (h : ∀ d ∈ ds, d < 10) : (digitText ds).all isFigure = true := by
  rw [List.all_eq_true]
  intro c hc
  obtain ⟨d, hd, rfl⟩ := List.mem_map.mp hc
  rw [isFigure, digitValue_digitChar d (h d hd)]
  rfl

theorem natChars_figures (n : Nat) : (natChars n).all isFigure = true :=
  digitText_figures (toDigits_lt n)

theorem intChars_figures (n : Int) : (intChars n).all isFigure = true := by
  have hnat := natChars_figures n.natAbs
  unfold intChars
  split
  · rw [List.all_cons, hnat]
    rfl
  · exact hnat

theorem positional_figures {d : Decimal} (h : ∀ x ∈ d.digits, x < 10) (point : Bool) :
    (d.positional point).all isFigure = true := by
  have hdigits {ds : List Nat} (hds : ds ⊆ d.digits) : (digitText ds).all isFigure = true :=
    digitText_figures fun x hx => h x (hds hx)
  have hall := hdigits (List.Subset.refl _)
  have hpoint : (if point then ['.', '0'] else []).all isFigure = true := by cases point <;> rfl
  unfold Decimal.positional
  dsimp only
  split
  · simp [hall]
  · split
    · simp [hall, hpoint]
    · have htake := hdigits (List.take_subset (d.exponent.toNat + 1) d.digits)
      have hdrop := hdigits (List.drop_subset (d.exponent.toNat + 1) d.digits)
      simp [htake, hdrop]

theorem pointed_figures {d : Decimal} (h : ∀ x ∈ d.digits, x < 10) : d.pointed.all isFigure = true := by
  unfold Decimal.pointed
  split
  · rfl
  · rename_i x hx
    rw [hx] at h
    exact digitText_figures h
  · rename_i x r _ hx
    rw [hx] at h
    obtain ⟨hfirst, hrest⟩ := List.forall_mem_cons.mp h
    have hone := digitText_figures (List.forall_mem_singleton.mpr hfirst)
    have hmore := digitText_figures hrest
    rw [digitText, List.map_singleton, List.all_cons, List.all_nil, Bool.and_true] at hone
    simp [hone, hmore]

theorem magnitudeChars_figures (m : Magnitude) : (magnitudeChars m).all isFigure = true := by
  unfold magnitudeChars
  split
  · rfl
  · dsimp only
    split
    · exact positional_figures m.shortest_lt true
    · have hpointed := pointed_figures m.shortest_lt
      have hexponent := natChars_figures m.shortest.exponent.natAbs
      have hsign : isFigure (if m.shortest.exponent < 0 then '-' else '+') = true := by split <;> rfl
      simp [hpointed, hexponent, hsign]

/-- A finite double is written with such characters. -/
theorem floatChars_figures {x : Float} (h : isFinite x = true) : (floatChars x).all isFigure = true := by
  unfold isFinite at h
  unfold floatChars
  split
  · rename_i negative m hm
    have hall := magnitudeChars_figures m
    cases negative with
    | false => exact hall
    | true =>
      rw [if_pos rfl, List.all_cons, hall]
      rfl
  · rename_i hother
    split at h
    · rename_i hm
      exact absurd hm (hother _ _)
    · cases h

/-- A character that no number is written with is not in a text of figures. -/
theorem notMem_of_figures {c : Char} {t : List Char} (hc : isFigure c = false) (h : t.all isFigure = true) :
    c ∉ t := by
  intro hmem
  rw [List.all_eq_true.mp h c hmem] at hc
  cases hc

/-! ### Null -/

theorem floatChars_of_not_finite {x : Float} (h : isFinite x = false) : floatChars x = "null".toList := by
  unfold isFinite at h
  unfold floatChars
  split
  · rename_i hm
    rw [hm] at h
    cases h
  · rfl

/-- What is written as null: null, and the doubles that are not finite. -/
theorem chars_null {j : Json} :
    j.chars = "null".toList ↔ j = .null ∨ ∃ x, j = .float x ∧ isFinite x = false := by
  have hfigures {t : List Char} (h : t.all isFigure = true) : t ≠ "null".toList := by
    rintro rfl
    exact absurd h (by decide)
  cases j with
  | null => simp [chars]
  | bool b => cases b <;> simp [chars]
  | int n => simpa [chars] using hfigures (intChars_figures n)
  | float x =>
    rw [chars]
    cases hx : isFinite x with
    | false => simp [floatChars_of_not_finite hx, hx]
    | true => simpa [hx] using hfigures (floatChars_figures hx)
  | str s => simp [chars, quote]
  | arr items => simp [chars]
  | obj fields => simp [chars]

end Json

end LuaSession
