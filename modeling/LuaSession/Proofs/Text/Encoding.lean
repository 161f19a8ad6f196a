import LuaSession.Proofs.Text.Decoding
import LuaSession.Proofs.Text.Utf8

/-!
# Bytes without a fault

Bytes in which no fault is found are the bytes of the text that is read from them, so no two such byte
strings are read as the same text. The first byte of a character says how many follow and what the first
digits of its code are to the base 64; each byte that follows gives one digit more.

* `Completes.eq_encode`: bytes that complete a character are its bytes.
* `encode_decode`: bytes without a fault.
* `decode?_eq_ok`: the byte strings that are read as a text.
-/

namespace LuaSession.Text.Utf8

/-! ### First bytes -/

/-- What the first byte of a longer character says: how many bytes follow, between which bounds the next
one is, and how the code begins. -/
def Heads (b : UInt8) (need : Nat) (lo hi : UInt8) (acc : Nat) : Prop :=
  need = 1 ∧ b.toNat = acc + 0xC0 ∧ 2 ≤ acc ∧ acc < 0x20 ∧ lo = 0x80 ∧ hi = 0xBF ∨
  need = 2 ∧ b.toNat = acc + 0xE0 ∧ acc < 0x10 ∧ lo = (if acc = 0 then 0xA0 else 0x80) ∧
    hi = (if acc = 0xD then 0x9F else 0xBF) ∨
  need = 3 ∧ b.toNat = acc + 0xF0 ∧ acc < 5 ∧ lo = (if acc = 0 then 0x90 else 0x80) ∧
    hi = (if acc = 4 then 0x8F else 0xBF)

instance (b : UInt8) (need : Nat) (lo hi : UInt8) (acc : Nat) : Decidable (Heads b need lo hi acc) :=
  inferInstanceAs (Decidable (_ ∨ _ ∨ _))

/-- A byte that is no character begins one. -/
theorem start_none {b : UInt8} {p : Pending} (h : start b = (none, p)) :
    ∃ need lo hi acc, p = .inside need lo hi acc ∧ Heads b need lo hi acc := by
  have hall : ∀ b, (match start b with
      | (none, .inside need lo hi acc) => decide (Heads b need lo hi acc)
      | (none, .boundary) => false
      | (some _, _) => true) = true := forall_byte (by decide +kernel)
  have hb := hall b
  rw [h] at hb
  cases p with
  | boundary => cases hb
  | inside need lo hi acc => exact ⟨need, lo, hi, acc, rfl, of_decide_eq_true hb⟩

theorem Heads.need {b lo hi : UInt8} {need acc : Nat} (h : Heads b need lo hi acc) : 1 ≤ need := by
  unfold Heads at h
  omega

/-! ### Where there is no fault -/

/-- A state that is at a boundary or waits for a byte. -/
def Pending.Waits : Pending → Prop
  | .boundary => True
  | .inside need _ _ _ => 1 ≤ need

/-- Bytes without a fault are no bytes, or they complete a character and go on without a fault. -/
theorem completes_of_fault {p : Pending} (hp : p.Waits) {offset taken : Nat} {bs : List UInt8}
    (h : faultFrom p offset taken bs = none) :
    p = .boundary ∧ bs = [] ∨ ∃ pre c rest next, Completes p pre c ∧ bs = pre ++ rest ∧
      faultFrom .boundary next 0 rest = none := by
  induction bs generalizing p offset taken with
  | nil =>
    cases p with
    | boundary => exact .inl ⟨rfl, rfl⟩
    | inside => cases h
  | cons b bs ih =>
    cases p with
    | boundary =>
      rw [faultFrom] at h
      split at h
      · rename_i c p hstart
        split at h
        · rename_i hb
          have hboundary := hstart
          rw [start_ascii hb] at hboundary
          cases hboundary
          exact .inr ⟨[b], _, bs, _, .one hb hstart, rfl, h⟩
        · cases h
      · rename_i p hstart
        obtain ⟨need, lo, hi, acc, rfl, hheads⟩ := start_none hstart
        obtain ⟨hp, -⟩ | ⟨pre, c, rest, next, hpre, rfl, hrest⟩ := ih (p := .inside ..) hheads.need h
        · cases hp
        · exact .inr ⟨b :: pre, c, rest, next, .first hstart hpre, rfl, hrest⟩
    | inside need lo hi acc =>
      rw [faultFrom] at h
      split at h
      · rename_i hbounds
        split at h
        · rename_i hneed
          obtain rfl := Nat.le_antisymm hneed hp
          exact .inr ⟨[b], _, bs, _, .last hbounds, rfl, h⟩
        · rename_i hneed
          obtain ⟨need, rfl⟩ : ∃ n, need = n + 2 := ⟨need - 2, by omega⟩
          obtain ⟨hp, -⟩ | ⟨pre, c, rest, next, hpre, rfl, hrest⟩ :=
            ih (p := .inside ..) (Nat.le_add_left 1 need) h
          · cases hp
          · exact .inr ⟨b :: pre, c, rest, next, .more hbounds hpre, rfl, hrest⟩
      · cases h

/-! ### The code of a character -/

/-- A code without its last digits. -/
def above (n : Nat) : Nat → Nat
  | 0 => n
  | need + 1 => above n need / 64

theorem above_two (n : Nat) : above n 2 = n / 4096 := Nat.div_div_eq_div_mul n 64 64

theorem above_three (n : Nat) : above n 3 = n / 262144 := by
  rw [above, above_two, Nat.div_div_eq_div_mul]

/-- The bytes of the last digits of a code. -/
def lastBytes (n : Nat) : Nat → List UInt8
  | 0 => []
  | need + 1 => UInt8.ofNat (above n need % 64 + 0x80) :: lastBytes n need

/-- What a byte adds to a code. -/
theorem digit_of_bounds {lo hi b : UInt8} (hlo : 0x80 ≤ lo.toNat) (hhi : hi.toNat ≤ 0xBF)
    (h : (decide (lo ≤ b) && decide (b ≤ hi)) = true) (acc : Nat) :
    extend acc b / 64 = acc ∧ extend acc b % 64 + 0x80 = b.toNat ∧ lo.toNat ≤ b.toNat ∧
      b.toNat ≤ hi.toNat := by
  rw [Bool.and_eq_true, decide_eq_true_eq, decide_eq_true_eq, UInt8.le_iff_toNat_le,
    UInt8.le_iff_toNat_le] at h
  unfold extend
  omega

/-- What the bytes say that complete a character: each gives one digit of its code. -/
theorem Completes.digits {need acc : Nat} {lo hi : UInt8} {bs : List UInt8} {c : Char}
    (h : Completes (.inside (need + 1) lo hi acc) bs c) (hlo : 0x80 ≤ lo.toNat)
    (hhi : hi.toNat ≤ 0xBF) :
    ∃ n, c = Char.ofNat n ∧ above n (need + 1) = acc ∧ bs = lastBytes n (need + 1) ∧
      lo.toNat ≤ above n need % 64 + 0x80 ∧ above n need % 64 + 0x80 ≤ hi.toNat := by
  induction need generalizing lo hi acc bs with
  | zero =>
    cases h with
    | @last _ _ _ b hbounds =>
      obtain ⟨hacc, hdigit, hle, hge⟩ := digit_of_bounds hlo hhi hbounds acc
      refine ⟨extend acc b, rfl, hacc, ?_, ?_⟩
      · rw [lastBytes, lastBytes, above, hdigit, UInt8.ofNat_toNat]
      · rw [above, hdigit]
        exact ⟨hle, hge⟩
  | succ need ih =>
    cases h with
    | @more _ _ _ _ b bs _ hbounds hrest =>
      obtain ⟨hacc, hdigit, hle, hge⟩ := digit_of_bounds hlo hhi hbounds acc
      obtain ⟨n, rfl, hn, rfl, -, -⟩ := ih hrest (Nat.le_refl _) (Nat.le_refl _)
      refine ⟨n, rfl, ?_, ?_, ?_⟩
      · rw [above, hn, hacc]
      · change _ = UInt8.ofNat (above n (need + 1) % 64 + 0x80) :: lastBytes n (need + 1)
        rw [hn, hdigit, UInt8.ofNat_toNat]
      · rw [hn, hdigit]
        exact ⟨hle, hge⟩

/-- The bytes of a character by its code. -/
theorem encodeChar_ofNat {n : Nat} (h : n.isValidChar) :
    String.utf8EncodeChar (Char.ofNat n) =
      if n < 0x80 then [UInt8.ofNat n]
      else if n < 0x800 then UInt8.ofNat (n / 64 + 0xC0) :: lastBytes n 1
      else if n < 0x10000 then UInt8.ofNat (n / 4096 + 0xE0) :: lastBytes n 2
      else UInt8.ofNat (n / 262144 + 0xF0) :: lastBytes n 3 := by
  have hcode : (Char.ofNat n).val.toNat = n := by
    rw [Char.ofNat, dif_pos h]
    exact UInt32.toNat_ofNatLT ..
  have hmax : n < 0x110000 := by
    unfold Nat.isValidChar at h
    omega
  unfold String.utf8EncodeChar
  dsimp only
  rw [hcode]
  by_cases hone : n < 0x80
  · rw [if_pos (Nat.le_of_lt_succ hone), if_pos hone]
  rw [if_neg (by omega), if_neg hone]
  by_cases htwo : n < 0x800
  · rw [if_pos (Nat.le_of_lt_succ htwo), if_pos htwo, Nat.mod_eq_of_lt (b := 32) (by omega)]
    simp [lastBytes, above]
  rw [if_neg (by omega), if_neg htwo]
  by_cases hthree : n < 0x10000
  · rw [if_pos (Nat.le_of_lt_succ hthree), if_pos hthree, Nat.mod_eq_of_lt (b := 16) (by omega)]
    simp [lastBytes, above]
  · rw [if_neg (by omega), if_neg hthree, Nat.mod_eq_of_lt (b := 8) (by omega)]
    simp [lastBytes, above, Nat.div_div_eq_div_mul]

/-- Bytes that complete a character are its bytes. -/
theorem Completes.eq_encode {bs : List UInt8} {c : Char} (h : Completes .boundary bs c) :
    bs = String.utf8EncodeChar c := by
  cases h with
  | @one b _ hb hstart =>
    rw [start_ascii hb] at hstart
    cases hstart
    have hlt : b.toNat < 0x80 := hb
    rw [encodeChar_ofNat (.inl (by omega)), if_pos hlt, UInt8.ofNat_toNat]
  | @first p b bs _ hstart hrest =>
    obtain ⟨need, lo, hi, acc, rfl, hheads⟩ := start_none hstart
    obtain ⟨rfl, hb, hacc, hacc', rfl, rfl⟩ | ⟨rfl, hb, hacc, rfl, rfl⟩ | ⟨rfl, hb, hacc, rfl, rfl⟩ :=
      hheads
    · obtain ⟨n, rfl, hn, rfl, -, -⟩ := hrest.digits (Nat.le_refl _) (Nat.le_refl _)
      change n / 64 = acc at hn
      rw [encodeChar_ofNat (.inl (by omega)), if_neg (by omega), if_pos (by omega), hn, ← hb,
        UInt8.ofNat_toNat]
    · obtain ⟨n, rfl, hn, rfl, hlo, hhi⟩ := hrest.digits (by split <;> decide) (by split <;> decide)
      replace hn : n / 4096 = acc := (above_two n).symm.trans hn
      change _ ≤ n / 64 % 64 + 0x80 at hlo
      change n / 64 % 64 + 0x80 ≤ _ at hhi
      have hlow : acc = 0 → 0x20 ≤ n / 64 % 64 := fun hzero => by
        rw [if_pos hzero] at hlo
        exact Nat.le_of_add_le_add_right (b := 0x80) hlo
      have hhigh : acc = 0xD → n / 64 % 64 < 0x20 := fun hsurrogate => by
        rw [if_pos hsurrogate] at hhi
        exact Nat.lt_of_add_lt_add_right (n := 0x80) (Nat.lt_succ_of_le hhi)
      have hvalid : n.isValidChar := by
        unfold Nat.isValidChar
        omega
      rw [encodeChar_ofNat hvalid, if_neg (by omega), if_neg (by omega), if_pos (by omega), hn, ← hb,
        UInt8.ofNat_toNat]
    · obtain ⟨n, rfl, hn, rfl, hlo, hhi⟩ := hrest.digits (by split <;> decide) (by split <;> decide)
      replace hn : n / 262144 = acc := (above_three n).symm.trans hn
      rw [above_two] at hlo hhi
      have hlow : acc = 0 → 0x10 ≤ n / 4096 % 64 := fun hzero => by
        rw [if_pos hzero] at hlo
        exact Nat.le_of_add_le_add_right (b := 0x80) hlo
      have hhigh : acc = 4 → n / 4096 % 64 < 0x10 := fun hlast => by
        rw [if_pos hlast] at hhi
        exact Nat.lt_of_add_lt_add_right (n := 0x80) (Nat.lt_succ_of_le hhi)
      have hvalid : n.isValidChar := by
        unfold Nat.isValidChar
        omega
      rw [encodeChar_ofNat hvalid, if_neg (by omega), if_neg (by omega), if_neg (by omega), hn, ← hb,
        UInt8.ofNat_toNat]

/-! ### Texts -/

/-- Bytes without a fault are the bytes of their text. The induction is on how many there are, a character
at a time. -/
theorem encode_decode {bs : List UInt8} (h : fault? bs = none) : encode (decode bs) = bs := by
  have hall (n : Nat) : ∀ (offset : Nat) (bs : List UInt8), bs.length ≤ n →
      faultFrom .boundary offset 0 bs = none → encode (decode bs) = bs := by
    induction n with
    | zero =>
      intro _ bs hlength _
      rw [List.eq_nil_of_length_eq_zero (Nat.le_zero.mp hlength)]
      rfl
    | succ n ih =>
      intro offset bs hlength hfault
      obtain ⟨-, rfl⟩ | ⟨pre, c, rest, next, hpre, rfl, hrest⟩ := completes_of_fault (p := .boundary) trivial hfault
      · rfl
      · have hshort : rest.length ≤ n := by
          have hpos : 0 < pre.length := by
            cases hpre with
            | one | first => exact Nat.zero_lt_succ _
          rw [List.length_append] at hlength
          omega
        rw [decode, hpre.decodeFrom, encode, List.flatMap_cons, ← hpre.eq_encode]
        exact congrArg _ (ih next rest hshort hrest)
  exact hall bs.length 0 bs (Nat.le_refl _) h

/-- The byte strings that are read as a text are the bytes of that text. -/
theorem decode?_eq_ok {bs : ByteArray} {s : String} : decode? bs = .ok s ↔ bs = s.toUTF8 := by
  constructor
  · intro h
    unfold decode? at h
    split at h
    · cases h
    · rename_i hfault
      cases h
      have htoList (bs : ByteArray) : bs.toList = bs.data.toList := toList_loop bs 0 []
      have hsame := encode_decode hfault
      rw [← String.toList_ofList (l := decode bs.toList), ← toList_toUTF8, ← decodeBytes, htoList,
        htoList] at hsame
      exact (ByteArray.ext (Array.toList_inj.mp hsame)).symm
  · rintro rfl
    exact decode?_toUTF8 s

end LuaSession.Text.Utf8
