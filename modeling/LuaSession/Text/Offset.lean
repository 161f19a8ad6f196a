/-!
# Offsets in bytes

A text addressed by the bytes of its UTF-8 form. An offset is in place if it stands between two
characters or at an end of the text, and a text can be cut only there. `offset s k` is the offset in
front of character `k`; the main statements say what happens at such offsets, in characters.

* `slice_offset`: what stands between two of them.
* `back_offset`, `forward_offset`: some characters before and after one.
* `Cursor.advance_offset`: a cursor that is moved forward counts characters.
* `find?_append`, `rfind?_append`: where a character stands first and last.
-/

namespace LuaSession.Text

/-- What makes a computation on texts and machine words stop: a slice that does not begin and end
between characters, in this order; a place that a list does not have; a difference below zero. -/
inductive Trap
  | slice (start stop : Nat)
  | place (index : Nat)
  | difference (a b : Nat)
  deriving DecidableEq, Repr

/-- The result of a computation that does not stop; `spare` stands for it otherwise. -/
def untrapped {α : Type} (spare : α) : Except Trap α → α
  | .ok a => a
  | .error _ => spare

/-- The number of bytes of a text. -/
def byteLength (s : List Char) : Nat :=
  s.foldl (fun n c => n + c.utf8Size) 0

/-- What remains of a text behind its first `n` bytes. -/
def dropBytes : List Char → (n : Nat) → Option (List Char)
  | s, 0 => some s
  | [], _ + 1 => none
  | c :: r, n + 1 => if c.utf8Size ≤ n + 1 then dropBytes r (n + 1 - c.utf8Size) else none

/-- The first `n` bytes of a text. -/
def takeBytes : List Char → (n : Nat) → Option (List Char)
  | _, 0 => some []
  | [], _ + 1 => none
  | c :: r, n + 1 =>
    if c.utf8Size ≤ n + 1 then (takeBytes r (n + 1 - c.utf8Size)).map (c :: ·) else none

/-- The text from one offset to another. -/
def slice (s : List Char) (start stop : Nat) : Except Trap (List Char) :=
  match if start ≤ stop then (dropBytes s start).bind (takeBytes · (stop - start)) else none with
  | some t => .ok t
  | none => .error (.slice start stop)

/-- Characters with their offsets, the first of which is `n`. -/
def indicesFrom (n : Nat) : List Char → List (Nat × Char)
  | [] => []
  | c :: r => (n, c) :: indicesFrom (n + c.utf8Size) r

/-- The characters of a text with their offsets. -/
def charIndices (s : List Char) : List (Nat × Char) :=
  indicesFrom 0 s

/-- Where a character stands first. -/
def find? (c : Char) (s : List Char) : Option Nat :=
  ((charIndices s).find? (·.2 == c)).map Prod.fst

/-- Where a character stands last. -/
def rfind? (c : Char) (s : List Char) : Option Nat :=
  ((charIndices s).reverse.find? (·.2 == c)).map Prod.fst

/-- The offset `n` characters before `start`, or the beginning. -/
def back (s : List Char) (start n : Nat) : Except Trap Nat :=
  if n = 0 then .ok start
  else do
    let before ← slice s 0 start
    return match (charIndices before).reverse[n - 1]? with
      | some (i, _) => i
      | none => 0

/-- The offset `n` characters after `start`, or the end. -/
def forward (s : List Char) (start n : Nat) : Except Trap Nat := do
  let after ← slice s start (byteLength s)
  return match (charIndices after)[n]? with
    | some (i, _) => start + i
    | none => byteLength s

/-- A place in a text by its offset and by the number of characters before it. -/
structure Cursor where
  byte : Nat := 0
  chars : Nat := 0
  deriving DecidableEq, Repr

/-- Moves a cursor forward to an offset. It does not go back. -/
def Cursor.advance (c : Cursor) (s : List Char) (byte : Nat) : Except Trap Cursor :=
  if c.byte < byte then do
    let passed ← slice s c.byte byte
    return ⟨byte, c.chars + passed.length⟩
  else .ok c

/-! ### Lengths -/

theorem byteLength_nil : byteLength [] = 0 := rfl

theorem byteLength_cons (c : Char) (s : List Char) :
    byteLength (c :: s) = c.utf8Size + byteLength s := by
  have shift : ∀ (s : List Char) (n : Nat),
      s.foldl (fun n c => n + c.utf8Size) n = n + s.foldl (fun n c => n + c.utf8Size) 0 := by
    intro s
    induction s with
    | nil => exact fun _ => rfl
    | cons d s ih =>
      intro n
      rw [List.foldl_cons, List.foldl_cons, ih, ih (0 + d.utf8Size)]
      omega
  rw [byteLength, List.foldl_cons, shift, Nat.zero_add]
  rfl

theorem byteLength_append (s t : List Char) :
    byteLength (s ++ t) = byteLength s + byteLength t := by
  induction s with
  | nil => rw [List.nil_append, byteLength_nil, Nat.zero_add]
  | cons c s ih => rw [List.cons_append, byteLength_cons, byteLength_cons, ih, Nat.add_assoc]

/-- A text has no more characters than bytes. -/
theorem length_le_byteLength (s : List Char) : s.length ≤ byteLength s := by
  induction s with
  | nil => exact Nat.le_refl 0
  | cons c s ih =>
    have := c.utf8Size_pos
    rw [byteLength_cons, List.length_cons]
    omega

/-! ### Offsets in place -/

/-- The offset in front of character `k`, or the end of the text. -/
def offset (s : List Char) (k : Nat) : Nat :=
  byteLength (s.take k)

@[simp]
theorem offset_zero (s : List Char) : offset s 0 = 0 := rfl

theorem offset_cons (c : Char) (s : List Char) (k : Nat) :
    offset (c :: s) (k + 1) = c.utf8Size + offset s k := by
  rw [offset, List.take_succ_cons, byteLength_cons]
  rfl

theorem offset_of_length_le {s : List Char} {k : Nat} (h : s.length ≤ k) :
    offset s k = byteLength s := by
  rw [offset, List.take_of_length_le h]

theorem offset_length (s : List Char) : offset s s.length = byteLength s :=
  offset_of_length_le (Nat.le_refl _)

theorem offset_append (s t : List Char) : offset (s ++ t) s.length = byteLength s := by
  rw [offset, List.take_left]

theorem offset_add_byteLength_drop (s : List Char) (k : Nat) :
    offset s k + byteLength (s.drop k) = byteLength s := by
  rw [offset, ← byteLength_append, List.take_append_drop]

/-- Offsets in the rest of a text. -/
theorem offset_add (s : List Char) (j k : Nat) :
    offset s (j + k) = offset s j + offset (s.drop j) k := by
  rw [offset, List.take_add, byteLength_append]
  rfl

theorem offset_take (s : List Char) {j k : Nat} (h : j ≤ k) :
    offset (s.take k) j = offset s j := by
  rw [offset, List.take_take, Nat.min_eq_left h]
  rfl

theorem offset_le (s : List Char) {j k : Nat} (h : j ≤ k) : offset s j ≤ offset s k := by
  obtain ⟨d, rfl⟩ := Nat.le.dest h
  rw [offset_add]
  exact Nat.le_add_right _ _

theorem offset_lt {s : List Char} {j k : Nat} (h : j < k) (hk : k ≤ s.length) :
    offset s j < offset s k := by
  obtain ⟨d, rfl⟩ := Nat.le.dest h
  have hlong : 0 < (s.drop j).length := by
    rw [List.length_drop]
    omega
  obtain ⟨c, r, hcr⟩ := List.exists_cons_of_length_pos hlong
  have := c.utf8Size_pos
  rw [Nat.succ_eq_add_one, Nat.add_assoc, Nat.add_comm 1 d, offset_add, hcr, offset_cons]
  omega

theorem offset_le_iff {s : List Char} {j k : Nat} (hj : j ≤ s.length) :
    offset s j ≤ offset s k ↔ j ≤ k := by
  refine ⟨fun h => Nat.le_of_not_lt fun hlt => ?_, offset_le s⟩
  exact absurd (offset_lt hlt hj) (Nat.not_lt.2 h)

/-! ### Slices -/

/-- The offset behind at least one character, with what is left of it behind the first. -/
theorem offset_succ (c : Char) (s : List Char) (k : Nat) :
    ∃ n, offset (c :: s) (k + 1) = n + 1 ∧ c.utf8Size ≤ n + 1 ∧
      n + 1 - c.utf8Size = offset s k := by
  have hpos := c.utf8Size_pos
  rw [offset_cons]
  exact ⟨c.utf8Size + offset s k - 1, by omega, by omega, by omega⟩

theorem dropBytes_offset (s : List Char) (k : Nat) :
    dropBytes s (offset s k) = some (s.drop k) := by
  induction s generalizing k with
  | nil => cases k <;> rfl
  | cons c s ih =>
    cases k with
    | zero => rw [offset_zero, dropBytes, List.drop_zero]
    | succ k =>
      obtain ⟨n, hn, hle, hrest⟩ := offset_succ c s k
      rw [hn, dropBytes, if_pos hle, hrest, ih, List.drop_succ_cons]

theorem takeBytes_offset (s : List Char) (k : Nat) :
    takeBytes s (offset s k) = some (s.take k) := by
  induction s generalizing k with
  | nil => cases k <;> rfl
  | cons c s ih =>
    cases k with
    | zero => rw [offset_zero, takeBytes, List.take_zero]
    | succ k =>
      obtain ⟨n, hn, hle, hrest⟩ := offset_succ c s k
      rw [hn, takeBytes, if_pos hle, hrest, ih, List.take_succ_cons, Option.map_some]

/-- A slice between offsets in place is the characters between them. -/
theorem slice_offset (s : List Char) {j k : Nat} (h : j ≤ k) :
    slice s (offset s j) (offset s k) = .ok (s.extract j k) := by
  have hlength : offset s k - offset s j = offset (s.drop j) (k - j) := by
    rw [← Nat.add_sub_cancel' h, offset_add, Nat.add_sub_cancel_left, Nat.add_sub_cancel_left]
  simp only [slice, if_pos (offset_le s h), dropBytes_offset, Option.bind_some, hlength,
    takeBytes_offset, List.extract_eq_take_drop]

/-- The rest of a text from an offset in place on. -/
theorem slice_end (s : List Char) (j : Nat) :
    slice s (offset s j) (byteLength s) = .ok (s.drop j) := by
  rcases Nat.le_total j s.length with h | h
  · rw [← offset_length, slice_offset s h, List.extract_eq_take_drop,
      List.take_of_length_le (Nat.le_of_eq List.length_drop)]
  · rw [← offset_of_length_le h, slice_offset s (Nat.le_refl j)]
    simp [List.drop_eq_nil_of_le h]

/-- The text before an offset in place. -/
theorem slice_start (s : List Char) (k : Nat) : slice s 0 (offset s k) = .ok (s.take k) := by
  rw [← offset_zero s, slice_offset s (Nat.zero_le k), List.extract_eq_take_drop, List.drop_zero,
    Nat.sub_zero]

/-- A part of a text is found between the lengths of what stands before and behind it. -/
theorem slice_append (s t u : List Char) :
    slice (s ++ (t ++ u)) (byteLength s) (byteLength s + byteLength t) = .ok t := by
  have hstop : offset (s ++ (t ++ u)) (s.length + t.length) = byteLength s + byteLength t := by
    rw [offset_add, offset_append, List.drop_left, offset_append]
  rw [← hstop, ← offset_append s (t ++ u), slice_offset _ (Nat.le_add_right _ _),
    List.extract_eq_take_drop, Nat.add_sub_cancel_left, List.drop_left, List.take_left]

/-! ### Characters by offset -/

theorem indicesFrom_append (n : Nat) (s t : List Char) :
    indicesFrom n (s ++ t) = indicesFrom n s ++ indicesFrom (n + byteLength s) t := by
  induction s generalizing n with
  | nil => rfl
  | cons c s ih => simp only [List.cons_append, indicesFrom, ih, byteLength_cons, Nat.add_assoc]

theorem length_indicesFrom (n : Nat) (s : List Char) : (indicesFrom n s).length = s.length := by
  induction s generalizing n with
  | nil => rfl
  | cons c s ih => rw [indicesFrom, List.length_cons, List.length_cons, ih]

theorem getElem?_indicesFrom (n : Nat) (s : List Char) (k : Nat) :
    (indicesFrom n s)[k]? = s[k]?.map fun c => (n + offset s k, c) := by
  induction s generalizing n k with
  | nil => rfl
  | cons c s ih =>
    cases k with
    | zero => rfl
    | succ k =>
      rw [indicesFrom, List.getElem?_cons_succ, List.getElem?_cons_succ, ih, offset_cons,
        Nat.add_assoc]

theorem mem_of_mem_indicesFrom {n : Nat} {s : List Char} {e : Nat × Char}
    (h : e ∈ indicesFrom n s) : e.2 ∈ s := by
  induction s generalizing n with
  | nil => cases h
  | cons c s ih =>
    rcases List.mem_cons.1 h with rfl | h
    · exact List.mem_cons_self
    · exact List.mem_cons_of_mem _ (ih h)

theorem length_charIndices (s : List Char) : (charIndices s).length = s.length :=
  length_indicesFrom 0 s

theorem getElem?_charIndices (s : List Char) (k : Nat) :
    (charIndices s)[k]? = s[k]?.map fun c => (offset s k, c) := by
  rw [charIndices, getElem?_indicesFrom, Nat.zero_add]

/-- Going back from character `k` ends `n` characters before it. -/
theorem back_offset (s : List Char) {k : Nat} (hk : k ≤ s.length) (n : Nat) :
    back s (offset s k) n = .ok (offset s (k - n)) := by
  unfold back
  split
  · next h => rw [h, Nat.sub_zero]
  · next h =>
    have hlength : (charIndices (s.take k)).length = k := by
      rw [length_charIndices, List.length_take, Nat.min_eq_left hk]
    simp only [slice_start, bind, Except.bind, pure, Except.pure]
    rcases Nat.lt_or_ge k n with hlt | hle
    · rw [List.getElem?_eq_none (by rw [List.length_reverse, hlength]; omega),
        Nat.sub_eq_zero_of_le (Nat.le_of_lt hlt), offset_zero]
    · have hplace : k - 1 - (n - 1) = k - n := by omega
      have hsome : k - n < (s.take k).length := by
        rw [List.length_take, Nat.min_eq_left hk]
        omega
      rw [List.getElem?_reverse (by rw [hlength]; omega), hlength, hplace, getElem?_charIndices,
        List.getElem?_eq_getElem hsome, Option.map_some, offset_take s (Nat.sub_le k n)]

/-- Going forward from character `k` ends `n` characters behind it. -/
theorem forward_offset (s : List Char) (k n : Nat) :
    forward s (offset s k) n = .ok (offset s (min s.length (k + n))) := by
  simp only [forward, slice_end, bind, Except.bind, pure, Except.pure, getElem?_charIndices,
    List.getElem?_drop]
  rcases Nat.lt_or_ge (k + n) s.length with hlt | hle
  · rw [List.getElem?_eq_getElem hlt, Option.map_some, Nat.min_eq_right (Nat.le_of_lt hlt),
      offset_add]
  · rw [List.getElem?_eq_none hle, Option.map_none, Nat.min_eq_left hle, offset_length]

/-! ### Cursors -/

/-- The cursor in front of character `k`. -/
def Cursor.at (s : List Char) (k : Nat) : Cursor :=
  ⟨offset s k, k⟩

theorem Cursor.at_zero (s : List Char) : Cursor.at s 0 = {} := rfl

/-- A cursor that is moved forward to an offset in place counts the characters before it. -/
theorem Cursor.advance_offset (s : List Char) {j k : Nat} (h : j ≤ k) (hk : k ≤ s.length) :
    (Cursor.at s j).advance s (offset s k) = .ok (Cursor.at s k) := by
  unfold advance Cursor.at
  rcases Nat.lt_or_eq_of_le h with hlt | rfl
  · have hlength : j + (s.extract j k).length = k := by
      rw [List.extract_eq_take_drop, List.length_take, List.length_drop]
      omega
    dsimp only
    rw [if_pos (offset_lt hlt hk), slice_offset s h]
    simp only [bind, Except.bind, pure, Except.pure, hlength]
  · exact if_neg (Nat.lt_irrefl _)

/-! ### Searching for a character -/

theorem find?_indicesFrom {c : Char} {s : List Char} {n : Nat} (h : c ∉ s) :
    (indicesFrom n s).find? (·.2 == c) = none := by
  refine List.find?_eq_none.2 fun e he heq => h ?_
  rw [← beq_iff_eq.1 heq]
  exact mem_of_mem_indicesFrom he

theorem find?_of_notMem {c : Char} {s : List Char} (h : c ∉ s) : find? c s = none := by
  rw [find?, charIndices, find?_indicesFrom h, Option.map_none]

theorem rfind?_indicesFrom {c : Char} {s : List Char} {n : Nat} (h : c ∉ s) :
    (indicesFrom n s).reverse.find? (·.2 == c) = none :=
  List.find?_eq_none.2 fun e he =>
    List.find?_eq_none.1 (find?_indicesFrom h) e (List.mem_reverse.1 he)

theorem rfind?_of_notMem {c : Char} {s : List Char} (h : c ∉ s) : rfind? c s = none := by
  rw [rfind?, charIndices, rfind?_indicesFrom h, Option.map_none]

/-- A character stands first behind a text without it. -/
theorem find?_append {c : Char} {s : List Char} (h : c ∉ s) (t : List Char) :
    find? c (s ++ c :: t) = some (byteLength s) := by
  rw [find?, charIndices, indicesFrom_append, List.find?_append, find?_indicesFrom h]
  simp [indicesFrom]

/-- A character stands last in front of a text without it. -/
theorem rfind?_append {c : Char} {t : List Char} (h : c ∉ t) (s : List Char) :
    rfind? c (s ++ c :: t) = some (byteLength s) := by
  rw [rfind?, charIndices, indicesFrom_append, indicesFrom, List.reverse_append, List.reverse_cons,
    List.append_assoc, List.find?_append, rfind?_indicesFrom h]
  simp

end LuaSession.Text
