import LuaSession.Text.Utf8

/-!
# Text that was encoded is read back

Every character has bytes of its own, and the reader makes them into that character again. The four
lengths of an encoding are taken one by one; what the first byte says about the second is what keeps
surrogates and needlessly long forms out.

* `decode_encode`: whatever the text.
* `decode?_toUTF8`: there is no fault in it.
-/

namespace LuaSession.Text.Utf8

/-- The bytes of a text. -/
def encode (s : List Char) : List UInt8 :=
  s.flatMap String.utf8EncodeChar

theorem encode_append (s t : List Char) : encode (s ++ t) = encode s ++ encode t :=
  List.flatMap_append

/-- They are the bytes of its string. -/
theorem toUTF8_ofList (s : List Char) : (String.ofList s).toUTF8.data.toList = encode s := by
  simp [encode, String.toUTF8, List.utf8Encode]

/-! ### First bytes -/

theorem start_one : ∀ n < 0x80, start (UInt8.ofNat n) = (some (Char.ofNat n), .boundary) := by
  decide

theorem start_two : ∀ k < 0x20, 2 ≤ k →
    start (UInt8.ofNat (k + 0xC0)) = (none, .inside 1 0x80 0xBF k) := by
  decide

theorem start_three : ∀ k < 0x10, start (UInt8.ofNat (k + 0xE0)) =
    (none, .inside 2 (if k = 0 then 0xA0 else 0x80) (if k = 0xD then 0x9F else 0xBF) k) := by
  decide

theorem start_four : ∀ k < 5, start (UInt8.ofNat (k + 0xF0)) =
    (none, .inside 3 (if k = 0 then 0x90 else 0x80) (if k = 4 then 0x8F else 0xBF) k) := by
  decide

/-! ### Bytes that go on -/

/-- The number in a byte that goes on with a character. -/
theorem toNat_ofNat_more {m : Nat} (hm : m < 0x40) : (UInt8.ofNat (m + 0x80)).toNat = m + 0x80 := by
  rw [UInt8.toNat_ofNat']
  omega

/-- A byte that goes on with a character inside its bounds. -/
theorem goesOn {lo hi : UInt8} {m : Nat} (hm : m < 0x40) (hlo : lo.toNat ≤ m + 0x80)
    (hhi : m + 0x80 ≤ hi.toNat) :
    (decide (lo ≤ UInt8.ofNat (m + 0x80)) && decide (UInt8.ofNat (m + 0x80) ≤ hi)) = true := by
  rw [Bool.and_eq_true, decide_eq_true_eq, decide_eq_true_eq, UInt8.le_iff_toNat_le,
    UInt8.le_iff_toNat_le, toNat_ofNat_more hm]
  exact ⟨hlo, hhi⟩

theorem extend_ofNat (acc : Nat) {m : Nat} (hm : m < 0x40) :
    extend acc (UInt8.ofNat (m + 0x80)) = acc * 64 + m := by
  have h := toNat_ofNat_more hm
  unfold extend
  omega

theorem mod_lt_more (n : Nat) : n % 0x40 < 0x40 := Nat.mod_lt n (by decide)

theorem mod_le_last (n : Nat) : n % 0x40 + 0x80 ≤ (0xBF : UInt8).toNat := by
  change n % 64 + 0x80 ≤ 0xBF
  omega

/-! ### Characters -/

/-- Bytes that lead from a state to the end of a character. -/
inductive Completes : Pending → List UInt8 → Char → Prop
  | one {b : UInt8} {c : Char} : b < 0x80 → start b = (some c, .boundary) → Completes .boundary [b] c
  | first {p : Pending} {b : UInt8} {bs : List UInt8} {c : Char} :
      start b = (none, p) → Completes p bs c → Completes .boundary (b :: bs) c
  | more {need acc : Nat} {lo hi b : UInt8} {bs : List UInt8} {c : Char} :
      (decide (lo ≤ b) && decide (b ≤ hi)) = true →
      Completes (.inside (need + 1) 0x80 0xBF (extend acc b)) bs c →
      Completes (.inside (need + 2) lo hi acc) (b :: bs) c
  | last {acc : Nat} {lo hi b : UInt8} :
      (decide (lo ≤ b) && decide (b ≤ hi)) = true →
      Completes (.inside 1 lo hi acc) [b] (Char.ofNat (extend acc b))

namespace Completes

variable {p : Pending} {bs : List UInt8} {c : Char}

theorem decodeFrom (h : Completes p bs c) (r : List UInt8) :
    Utf8.decodeFrom p (bs ++ r) = c :: Utf8.decodeFrom .boundary r := by
  induction h with
  | one _ hstart => simp only [List.cons_append, List.nil_append, Utf8.decodeFrom, hstart]
  | first hstart _ ih => simpa only [List.cons_append, Utf8.decodeFrom, hstart] using ih
  | more hbounds _ ih =>
    rw [List.cons_append, Utf8.decodeFrom, if_pos hbounds, if_neg (by omega)]
    exact ih
  | last hbounds =>
    rw [List.cons_append, List.nil_append, Utf8.decodeFrom, if_pos hbounds, if_pos (Nat.le_refl 1)]

/-- There is no fault in a character. -/
theorem faultFrom (h : Completes p bs c) (offset taken : Nat) (r : List UInt8) :
    ∃ next, Utf8.faultFrom p offset taken (bs ++ r) = Utf8.faultFrom .boundary next 0 r := by
  induction h generalizing offset taken with
  | one hone hstart =>
    refine ⟨offset + 1, ?_⟩
    simp only [List.cons_append, List.nil_append, Utf8.faultFrom, hstart, if_pos hone]
  | first hstart _ ih =>
    obtain ⟨next, hnext⟩ := ih offset 1
    exact ⟨next, by simpa only [List.cons_append, Utf8.faultFrom, hstart] using hnext⟩
  | more hbounds _ ih =>
    obtain ⟨next, hnext⟩ := ih offset (taken + 1)
    refine ⟨next, ?_⟩
    rw [List.cons_append, Utf8.faultFrom, if_pos hbounds, if_neg (by omega)]
    exact hnext
  | last hbounds =>
    refine ⟨offset + taken + 1, ?_⟩
    rw [List.cons_append, List.nil_append, Utf8.faultFrom, if_pos hbounds, if_pos (Nat.le_refl 1)]

theorem last_ofNat {lo hi : UInt8} {m acc : Nat} (hm : m < 0x40) (hlo : lo.toNat ≤ m + 0x80)
    (hhi : m + 0x80 ≤ hi.toNat) :
    Completes (.inside 1 lo hi acc) [UInt8.ofNat (m + 0x80)] (Char.ofNat (acc * 64 + m)) := by
  rw [← extend_ofNat acc hm]
  exact .last (goesOn hm hlo hhi)

theorem more_ofNat {lo hi : UInt8} {m need acc : Nat} (hm : m < 0x40) (hlo : lo.toNat ≤ m + 0x80)
    (hhi : m + 0x80 ≤ hi.toNat)
    (h : Completes (.inside (need + 1) 0x80 0xBF (acc * 64 + m)) bs c) :
    Completes (.inside (need + 2) lo hi acc) (UInt8.ofNat (m + 0x80) :: bs) c :=
  .more (goesOn hm hlo hhi) (by rwa [extend_ofNat acc hm])

theorem one_byte {n : Nat} (hn : n < 0x80) : Completes .boundary [UInt8.ofNat n] (Char.ofNat n) := by
  refine .one ?_ (start_one n hn)
  rw [UInt8.lt_iff_toNat_lt, UInt8.toNat_ofNat']
  change n % 256 < 128
  omega

theorem two_bytes {n : Nat} (hlow : 0x80 ≤ n) (hn : n < 0x800) :
    Completes .boundary [UInt8.ofNat (n / 64 + 0xC0), UInt8.ofNat (n % 0x40 + 0x80)]
      (Char.ofNat n) := by
  have hcode : n / 64 * 64 + n % 0x40 = n := by omega
  rw [← congrArg Char.ofNat hcode]
  exact .first (start_two _ (by omega) (by omega)) <|
    .last_ofNat (mod_lt_more n) (Nat.le_add_left _ _) (mod_le_last n)

/-- The bounds of the second byte keep out what has two bytes, and surrogates. -/
theorem three_bytes {n : Nat} (hlow : 0x800 ≤ n) (hn : n < 0x10000)
    (hvalid : n < 0xD800 ∨ 0xDFFF < n) :
    Completes .boundary [UInt8.ofNat (n / 4096 + 0xE0), UInt8.ofNat (n / 64 % 0x40 + 0x80),
      UInt8.ofNat (n % 0x40 + 0x80)] (Char.ofNat n) := by
  have hlo : (if n / 4096 = 0 then 0xA0 else 0x80 : UInt8).toNat ≤ n / 64 % 0x40 + 0x80 := by
    split
    · change 0xA0 ≤ _
      omega
    · exact Nat.le_add_left _ _
  have hhi : n / 64 % 0x40 + 0x80 ≤ (if n / 4096 = 0xD then 0x9F else 0xBF : UInt8).toNat := by
    split
    · change _ ≤ 0x9F
      omega
    · exact mod_le_last _
  have hcode : (n / 4096 * 64 + n / 64 % 0x40) * 64 + n % 0x40 = n := by omega
  rw [← congrArg Char.ofNat hcode]
  exact .first (start_three _ (by omega)) <| .more_ofNat (mod_lt_more _) hlo hhi <|
    .last_ofNat (mod_lt_more n) (Nat.le_add_left _ _) (mod_le_last n)

/-- The bounds of the second byte keep out what has three bytes, and numbers beyond all characters. -/
theorem four_bytes {n : Nat} (hlow : 0x10000 ≤ n) (hn : n < 0x110000) :
    Completes .boundary [UInt8.ofNat (n / 262144 + 0xF0), UInt8.ofNat (n / 4096 % 0x40 + 0x80),
      UInt8.ofNat (n / 64 % 0x40 + 0x80), UInt8.ofNat (n % 0x40 + 0x80)] (Char.ofNat n) := by
  have hlo : (if n / 262144 = 0 then 0x90 else 0x80 : UInt8).toNat ≤ n / 4096 % 0x40 + 0x80 := by
    split
    · change 0x90 ≤ _
      omega
    · exact Nat.le_add_left _ _
  have hhi : n / 4096 % 0x40 + 0x80 ≤ (if n / 262144 = 4 then 0x8F else 0xBF : UInt8).toNat := by
    split
    · change _ ≤ 0x8F
      omega
    · exact mod_le_last _
  have hcode : ((n / 262144 * 64 + n / 4096 % 0x40) * 64 + n / 64 % 0x40) * 64 + n % 0x40 = n := by
    omega
  rw [← congrArg Char.ofNat hcode]
  exact .first (start_four _ (by omega)) <| .more_ofNat (mod_lt_more _) hlo hhi <|
    .more_ofNat (mod_lt_more _) (Nat.le_add_left _ _) (mod_le_last _) <|
    .last_ofNat (mod_lt_more n) (Nat.le_add_left _ _) (mod_le_last n)

end Completes

/-- The bytes of a character complete it. -/
theorem completes_encodeChar (c : Char) :
    Completes .boundary (String.utf8EncodeChar c) c := by
  have hvalid : c.toNat < 0xD800 ∨ 0xDFFF < c.toNat ∧ c.toNat < 0x110000 := c.valid
  unfold String.utf8EncodeChar
  dsimp only
  have hc : Char.ofNat c.toNat = c := Char.ofNat_toNat c
  generalize hn : c.toNat = n at hvalid hc ⊢
  have hval : c.val.toNat = n := hn
  rw [hval, ← hc]
  clear hn hval
  split
  · exact .one_byte (by omega)
  split
  · have hk : n / 64 % 0x20 = n / 64 := by omega
    have htwo := Completes.two_bytes (n := n) (by omega) (by omega)
    rw [← hk] at htwo
    exact htwo
  split
  · have hk : n / 4096 % 0x10 = n / 4096 := by omega
    have hthree := Completes.three_bytes (n := n) (by omega) (by omega) (by omega)
    rw [← hk] at hthree
    exact hthree
  · have hk : n / 262144 % 0x08 = n / 262144 := by omega
    have hfour := Completes.four_bytes (n := n) (by omega) (by omega)
    rw [← hk] at hfour
    exact hfour

/-- A character is read back from its bytes. -/
theorem decodeFrom_encodeChar (c : Char) (r : List UInt8) :
    decodeFrom .boundary (String.utf8EncodeChar c ++ r) = c :: decodeFrom .boundary r :=
  (completes_encodeChar c).decodeFrom r

/-- A text is read back from its bytes. -/
theorem decode_encode (s : List Char) : decode (encode s) = s := by
  induction s with
  | nil => rfl
  | cons c s ih =>
    rw [decode] at ih ⊢
    rw [encode, List.flatMap_cons, decodeFrom_encodeChar]
    exact congrArg _ ih

/-- There is no fault in a text. -/
theorem fault?_encode (s : List Char) : fault? (encode s) = none := by
  have hall (offset : Nat) : faultFrom .boundary offset 0 (encode s) = none := by
    induction s generalizing offset with
    | nil => rfl
    | cons c s ih =>
      obtain ⟨next, hnext⟩ := (completes_encodeChar c).faultFrom offset 0 (encode s)
      exact hnext.trans (ih next)
  exact hall 0

/-- The bytes of an array in their order. -/
theorem toList_loop (bs : ByteArray) (i : Nat) (acc : List UInt8) :
    ByteArray.toList.loop bs i acc = acc.reverse ++ bs.data.toList.drop i := by
  fun_induction ByteArray.toList.loop bs i acc with
  | case1 i acc hi ih =>
    have hlist : i < bs.data.toList.length := hi
    have hget : bs.get! i = bs.data.toList[i] := by
      rw [ByteArray.get!, Array.getElem_toList]
      exact getElem!_pos bs.data i hi
    rw [ih, List.drop_eq_getElem_cons hlist, hget, List.reverse_cons, List.append_assoc]
    rfl
  | case2 i acc hi =>
    rw [List.drop_of_length_le (Nat.le_of_not_lt hi), List.append_nil]

theorem toList_toUTF8 (s : String) : s.toUTF8.toList = encode s.toList := by
  rw [← toUTF8_ofList, String.ofList_toList]
  exact toList_loop s.toUTF8 0 []

theorem decodeBytes_toUTF8 (s : String) : decodeBytes s.toUTF8 = s := by
  rw [decodeBytes, toList_toUTF8, decode_encode, String.ofList_toList]

/-- The text of the bytes of a string is the string. -/
theorem decode?_toUTF8 (s : String) : decode? s.toUTF8 = .ok s := by
  rw [decode?, toList_toUTF8, fault?_encode]
  exact congrArg Except.ok (decodeBytes_toUTF8 s)

/-- Only a line feed has the byte of a line feed. -/
theorem encodeChar_newline {c : Char} (h : 0x20 ≤ c.toNat) :
    (0x0A : UInt8) ∉ String.utf8EncodeChar c := by
  have hbyte : ∀ n, 0x20 ≤ n → n < 0x100 → (0x0A : UInt8) ≠ UInt8.ofNat n := by
    intro n hlow hhigh heq
    have := congrArg UInt8.toNat heq
    rw [UInt8.toNat_ofNat'] at this
    change 10 = n % 256 at this
    omega
  have hval : c.val.toNat = c.toNat := rfl
  have hvalid : c.toNat < 0xD800 ∨ 0xDFFF < c.toNat ∧ c.toNat < 0x110000 := c.valid
  unfold String.utf8EncodeChar
  rw [hval]
  intro hmem
  dsimp only at hmem
  split at hmem
  · exact hbyte _ h (by omega) (List.mem_singleton.1 hmem)
  split at hmem
  · simp only [List.mem_cons, List.not_mem_nil, or_false] at hmem
    rcases hmem with hmem | hmem
    · exact hbyte _ (by omega) (by omega) hmem
    · exact hbyte _ (by omega) (by omega) hmem
  split at hmem
  · simp only [List.mem_cons, List.not_mem_nil, or_false] at hmem
    rcases hmem with hmem | hmem | hmem
    · exact hbyte _ (by omega) (by omega) hmem
    · exact hbyte _ (by omega) (by omega) hmem
    · exact hbyte _ (by omega) (by omega) hmem
  · simp only [List.mem_cons, List.not_mem_nil, or_false] at hmem
    rcases hmem with hmem | hmem | hmem | hmem
    · exact hbyte _ (by omega) (by omega) hmem
    · exact hbyte _ (by omega) (by omega) hmem
    · exact hbyte _ (by omega) (by omega) hmem
    · exact hbyte _ (by omega) (by omega) hmem

end LuaSession.Text.Utf8
