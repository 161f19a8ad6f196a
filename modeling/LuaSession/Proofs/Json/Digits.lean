import LuaSession.Json.Reader

/-!
# Written digits are read back

The reader takes the digits that the printer wrote for a number, whatever follows them as long as it
is no digit.

* `digitSpan_digits`: all digits are taken.
* `absorb_all`: as long as they fit in 64 bits, they are taken as one number.
* `natChars_head`, `natChars_begins`: how the digits of a number begin.
-/

namespace LuaSession.Json

open Number

/-! ### What follows -/

/-- What follows does not begin with a digit. -/
def NoDigit (rest : List Char) : Prop :=
  ∀ c r, rest = c :: r → digitValue? c = none

/-- What follows does not go on with a number. -/
def Ends (rest : List Char) : Prop :=
  ∀ c r, rest = c :: r → digitValue? c = none ∧ c ≠ '.' ∧ c ≠ 'e' ∧ c ≠ 'E'

theorem Ends.noDigit {rest : List Char} (h : Ends rest) : NoDigit rest :=
  fun c r hc => (h c r hc).1

/-- Nothing goes on after a number that is not read on. -/
theorem Ends.plain {rest : List Char} (hr : Ends rest) :
    ∀ c r, rest = c :: r → c ≠ '.' ∧ c ≠ 'e' ∧ c ≠ 'E' :=
  fun c r h => (hr c r h).2

theorem Ends.nil : Ends [] := nofun

theorem Ends.cons {c : Char} (h : digitValue? c = none ∧ c ≠ '.' ∧ c ≠ 'e' ∧ c ≠ 'E')
    (r : List Char) : Ends (c :: r) := by
  rintro _ _ ⟨⟩
  exact h

/-! ### Digits -/

theorem digitValue_digitChar : ∀ d < 10, digitValue? (digitChar d) = some d := by
  decide

theorem digitChar_ne_zero : ∀ d < 10, 0 < d → digitChar d ≠ '0' := by
  decide

theorem digitSpan_digits {ds : List Nat} (hds : ∀ d ∈ ds, d < 10) {rest : List Char}
    (hr : NoDigit rest) : digitSpan (ds.map digitChar ++ rest) = (ds, rest) := by
  induction ds with
  | nil =>
    cases rest with
    | nil => rfl
    | cons c r =>
      change digitSpan (c :: r) = _
      rw [digitSpan, hr c r rfl]
  | cons d ds ih =>
    obtain ⟨hd, hds⟩ := List.forall_mem_cons.1 hds
    change digitSpan (digitChar d :: (ds.map digitChar ++ rest)) = _
    rw [digitSpan, digitValue_digitChar d hd]
    dsimp only
    rw [ih hds]

theorem digitsRev_lt (base fuel n : Nat) : ∀ d ∈ digitsRev base fuel n, d < base + 2 := by
  induction fuel generalizing n with
  | zero => exact List.forall_mem_nil _
  | succ fuel ih =>
    rw [digitsRev]
    split
    · rename_i h
      exact List.forall_mem_singleton.2 h
    · exact List.forall_mem_cons.2 ⟨Nat.mod_lt _ (by omega), ih _⟩

theorem toDigits_lt (n : Nat) : ∀ d ∈ toDigits n, d < 10 := by
  intro d hd
  exact digitsRev_lt 8 _ _ d (List.mem_reverse.1 hd)

/-- Digits that stay below the bound are all taken. -/
theorem absorb_all {ds : List Nat} {sig : Nat}
    (h : ds.foldl (fun a d => a * 10 + d) sig < 0x10000000000000000) :
    absorb sig ds = (ds.foldl (fun a d => a * 10 + d) sig, 0) := by
  have hle : ∀ (ds : List Nat) (sig : Nat), sig ≤ ds.foldl (fun a d => a * 10 + d) sig := by
    intro ds
    induction ds with
    | nil => exact fun sig => Nat.le_refl sig
    | cons d ds ih =>
      intro sig
      exact Nat.le_trans (by omega) (ih (sig * 10 + d))
  induction ds generalizing sig with
  | nil => rfl
  | cons d ds ih =>
    rw [List.foldl_cons] at h ⊢
    have hd := Nat.lt_of_le_of_lt (hle ds (sig * 10 + d)) h
    rw [absorb, if_neg (Nat.not_le.2 hd), ih h]

theorem digitsRev_last (base fuel : Nat) {n : Nat} (hn : 0 < n) (h : n < fuel) :
    ∃ ds d, digitsRev base fuel n = ds ++ [d] ∧ 0 < d := by
  induction fuel generalizing n with
  | zero => exact absurd h (Nat.not_lt_zero n)
  | succ fuel ih =>
    rw [digitsRev]
    split
    · exact ⟨[], n, rfl, hn⟩
    · rename_i hlt
      have hpos : 0 < n / (base + 2) := Nat.div_pos (by omega) (by omega)
      have hdiv : n / (base + 2) < n := Nat.div_lt_self hn (by omega)
      obtain ⟨ds, d, hds, hd⟩ := ih hpos (by omega)
      exact ⟨n % (base + 2) :: ds, d, by rw [hds]; rfl, hd⟩

/-- The digits of a positive number do not begin with a zero. -/
theorem toDigits_head {n : Nat} (hn : 0 < n) : ∃ d ds, toDigits n = d :: ds ∧ 0 < d ∧ d < 10 := by
  obtain ⟨ds, d, hds, hd⟩ := digitsRev_last 8 (n + 1) hn (Nat.lt_succ_self n)
  have h : toDigits n = d :: ds.reverse := by
    rw [toDigits, hds, List.reverse_append]
    rfl
  exact ⟨d, ds.reverse, h, hd, toDigits_lt n d (by rw [h]; exact List.mem_cons_self)⟩

theorem natChars_head {n : Nat} (hn : 0 < n) : (natChars n).head? ≠ some '0' := by
  obtain ⟨d, ds, hds, hd, hlt⟩ := toDigits_head hn
  rw [natChars, hds, List.map_cons, List.head?_cons]
  exact fun h => digitChar_ne_zero d hlt hd (Option.some.inj h)

theorem natChars_begins (n : Nat) : ∃ d r, natChars n = digitChar d :: r ∧ d < 10 := by
  rcases Nat.eq_zero_or_pos n with rfl | h
  · exact ⟨0, [], rfl, by decide⟩
  · obtain ⟨d, ds, hds, -, hd⟩ := toDigits_head h
    exact ⟨d, ds.map digitChar, by rw [natChars, hds]; rfl, hd⟩

theorem toDigits_ne_nil (k : Nat) : toDigits k ≠ [] := by
  obtain ⟨d, r, hd, -⟩ := natChars_begins k
  intro hnil
  rw [natChars, hnil] at hd
  cases hd

end LuaSession.Json
