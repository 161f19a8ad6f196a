import LuaSession.Text.Utf8

/-!
# Bytes below 128 stand for themselves

A byte below 128 is no part of a longer character. So it is read as its own character whatever stands
before it, even the beginning of a character that is then not completed, and no other bytes are read as
a line feed.

* `decodeFrom_cons`: what one byte does to the reader.
* `decode_append_ascii`: the text in front of such a byte and the text behind it.
* `newline_notMem_decode`: line feeds come from line feeds only.
-/

namespace LuaSession.Text.Utf8

/-- What reading one byte gives, and the state after it. -/
def Pending.next : Pending → UInt8 → List Char × Pending
  | .boundary, b => ((start b).1.toList, (start b).2)
  | .inside need lo hi acc, b =>
    if lo ≤ b && b ≤ hi then
      if need ≤ 1 then ([Char.ofNat (extend acc b)], .boundary)
      else ([], .inside (need - 1) 0x80 0xBF (extend acc b))
    else (replacement :: (start b).1.toList, (start b).2)

/-- The bytes are read one after the other. -/
theorem decodeFrom_cons (p : Pending) (b : UInt8) (r : List UInt8) :
    decodeFrom p (b :: r) = (p.next b).1 ++ decodeFrom (p.next b).2 r := by
  cases p with
  | boundary =>
    rw [decodeFrom, Pending.next]
    split
    · rename_i c q hstart
      rw [hstart]
      rfl
    · rename_i q hstart
      rw [hstart]
      rfl
  | inside need lo hi acc =>
    rw [decodeFrom, Pending.next]
    split
    · split
      · rfl
      · rfl
    · split
      · rename_i c q hstart
        rw [hstart]
        rfl
      · rename_i q hstart
        rw [hstart]
        rfl

/-! ### First bytes -/

/-- What holds of all numbers below 256 holds of all bytes. -/
theorem forall_byte {P : UInt8 → Prop} (h : ∀ n < 256, P (UInt8.ofNat n)) (b : UInt8) : P b := by
  have hb := h b.toNat b.toNat_lt
  rwa [UInt8.ofNat_toNat] at hb

/-- A state in which no byte below 128 goes on, and from which no code below 64 is reached. -/
def Pending.Beyond : Pending → Prop
  | .boundary => True
  | .inside need lo _ acc => 0x80 ≤ lo ∧ (1 ≤ acc ∨ 2 ≤ need ∧ 0x81 ≤ lo)

instance (p : Pending) : Decidable p.Beyond :=
  match p with
  | .boundary => isTrue trivial
  | .inside need lo _ acc => inferInstanceAs (Decidable (0x80 ≤ lo ∧ (1 ≤ acc ∨ 2 ≤ need ∧ 0x81 ≤ lo)))

theorem start_beyond : ∀ b, (start b).2.Beyond := forall_byte (by decide +kernel)

theorem start_eq_newline : ∀ b, (start b).1 = some '\n' → b = 0x0A := forall_byte (by decide +kernel)

theorem start_ascii {b : UInt8} (h : b < 0x80) :
    start b = (some (Char.ofNat b.toNat), .boundary) := by
  rw [start, if_pos h]

/-! ### Bytes that go on -/

/-- Some bit of the code is set. -/
theorem one_le_extend {need acc : Nat} {lo b : UInt8} (h : 1 ≤ acc ∨ 2 ≤ need ∧ 0x81 ≤ lo)
    (hlo : lo ≤ b) : 1 ≤ extend acc b := by
  unfold extend
  rcases h with hacc | ⟨-, hlow⟩
  · omega
  · have hb : (0x81 : UInt8).toNat ≤ b.toNat := UInt8.le_iff_toNat_le.mp (UInt8.le_trans hlow hlo)
    rw [show (0x81 : UInt8).toNat = 0x81 from rfl] at hb
    omega

/-- A code that is complete has a bit above the last six. -/
theorem le_extend {acc : Nat} (h : 1 ≤ acc) (b : UInt8) : 64 ≤ extend acc b := by
  unfold extend
  omega

theorem ofNat_ne_newline {n : Nat} (h : 64 ≤ n) : Char.ofNat n ≠ '\n' := by
  intro heq
  by_cases hvalid : n.isValidChar
  · rw [Char.ofNat, dif_pos hvalid] at heq
    have hcode : n = 10 := (UInt32.toNat_ofNatLT ..).symm.trans (congrArg Char.toNat heq)
    omega
  · rw [Char.ofNat, dif_neg hvalid] at heq
    exact absurd heq (by decide)

namespace Pending

variable {p : Pending} {b : UInt8}

theorem beyond_next (h : p.Beyond) (b : UInt8) : (p.next b).2.Beyond := by
  cases p with
  | boundary => exact start_beyond b
  | inside need lo hi acc =>
    rw [next]
    split
    · rename_i hbounds
      split
      · trivial
      · have hlo : lo ≤ b := by simpa using (Bool.and_eq_true_iff.mp hbounds).1
        have hcode : 1 ≤ extend acc b := one_le_extend h.2 hlo
        exact ⟨UInt8.le_refl _, .inl hcode⟩
    · exact start_beyond b

/-- A byte below 128 ends what was begun, and is read as itself. -/
theorem next_ascii (h : p.Beyond) (hb : b < 0x80) :
    p.next b = (decodeFrom p [] ++ [Char.ofNat b.toNat], .boundary) := by
  cases p with
  | boundary => rw [next, start_ascii hb]; rfl
  | inside need lo hi acc =>
    have hlo : ¬lo ≤ b := UInt8.not_le.mpr (UInt8.lt_of_lt_of_le hb h.1)
    rw [next, if_neg (by simp [hlo]), start_ascii hb]
    rfl

/-- No other byte is read as a line feed. -/
theorem newline_notMem_next (h : p.Beyond) (hb : b ≠ 0x0A) : '\n' ∉ (p.next b).1 := by
  have hstart : '\n' ∉ (start b).1.toList := by
    intro hmem
    exact hb (start_eq_newline b (Option.mem_toList.mp hmem))
  cases p with
  | boundary => exact hstart
  | inside need lo hi acc =>
    rw [next]
    split
    · split
      · rename_i hneed
        have hacc : 1 ≤ acc := h.2.resolve_right fun hmore =>
          absurd (Nat.le_trans hmore.1 hneed) (by decide)
        simpa using (ofNat_ne_newline (le_extend hacc b)).symm
      · exact List.not_mem_nil
    · simpa [replacement] using hstart

end Pending

/-! ### Texts -/

variable {p : Pending} {bs : List UInt8} {b : UInt8}

theorem decodeFrom_append_ascii (h : p.Beyond) (bs : List UInt8) (hb : b < 0x80) (r : List UInt8) :
    decodeFrom p (bs ++ b :: r) = decodeFrom p bs ++ Char.ofNat b.toNat :: decode r := by
  induction bs generalizing p with
  | nil =>
    rw [List.nil_append, decodeFrom_cons, p.next_ascii h hb, List.append_assoc]
    rfl
  | cons d bs ih =>
    rw [List.cons_append, decodeFrom_cons, decodeFrom_cons, ih (p.beyond_next h d),
      List.append_assoc]

/-- The text in front of a byte below 128 and the text behind it do not depend on each other. -/
theorem decode_append_ascii (bs : List UInt8) (hb : b < 0x80) (r : List UInt8) :
    decode (bs ++ b :: r) = decode bs ++ Char.ofNat b.toNat :: decode r :=
  decodeFrom_append_ascii (p := .boundary) trivial bs hb r

theorem newline_notMem_decodeFrom (h : p.Beyond) (hbs : 0x0A ∉ bs) : '\n' ∉ decodeFrom p bs := by
  induction bs generalizing p with
  | nil => cases p <;> simp [decodeFrom, replacement]
  | cons b bs ih =>
    obtain ⟨hb, hrest⟩ := not_or.mp (mt List.mem_cons.mpr hbs)
    rw [decodeFrom_cons, List.mem_append, not_or]
    exact ⟨p.newline_notMem_next h (Ne.symm hb), ih (p.beyond_next h b) hrest⟩

/-- Line feeds come from line feeds only. -/
theorem newline_notMem_decode (h : 0x0A ∉ bs) : '\n' ∉ decode bs :=
  newline_notMem_decodeFrom (p := .boundary) trivial h

end LuaSession.Text.Utf8
