import LuaSession.Proofs.Search.Matches
import LuaSession.Search.Section
import Mathlib.Data.List.Basic

/-!
# Sections lose nothing

A line goes up to its line feed, which belongs to it; the last line may lack one and may be empty.
The line of a character is told by the number of line feeds before it. Headers are passed over as
long as they do not begin behind the line of the header before, so every line on which a match
begins opens one section, with its first match.

* `le_lineEnd_iff`: what is not behind the end of a line is on the line, or on one before.
* `headersFrom_inBytes`: the headers are the first matches of their lines.
* `sectionsFrom_inBytes`: sections take up the text from the first header on.
* `sections_split`: both, for every text and every header pattern.
-/

namespace LuaSession.Search

open LuaSession.Text

variable {s : List Char} {j k : Nat} {m : Nat × Nat} {ms : List (Nat × Nat)}

/-! ### Lines -/

/-- The line of character `k`, counted from 0. -/
def lineAt (s : List Char) (k : Nat) : Nat :=
  (s.take k).count '\n'

/-- Where the first line feed from character `k` on stands, or the end of the text. -/
def lineEnd (s : List Char) (k : Nat) : Nat :=
  k + ((s.drop k).takeWhile (· != '\n')).length

theorem lineAt_mono (s : List Char) (h : j ≤ k) : lineAt s j ≤ lineAt s k :=
  (List.take_sublist_take_left h).count_le '\n'

theorem lineAt_le_count (s : List Char) (k : Nat) : lineAt s k ≤ s.count '\n' :=
  (List.take_sublist k s).count_le '\n'

/-- The rest of a text is the rest of a line, and then nothing or a line feed. -/
theorem exists_line (s : List Char) (k : Nat) : ∃ w t, s.drop k = w ++ t ∧ '\n' ∉ w ∧
    lineEnd s k = k + w.length ∧ (t = [] ∨ ∃ r, t = '\n' :: r) := by
  refine ⟨_, (s.drop k).dropWhile (· != '\n'), List.takeWhile_append_dropWhile.symm, fun h => ?_,
    rfl, ?_⟩
  · exact absurd (List.all_eq_true.1 List.all_takeWhile _ h) (by decide)
  · cases ht : (s.drop k).dropWhile (· != '\n') with
    | nil => exact .inl rfl
    | cons c r =>
      have hc := List.head?_dropWhile_not (· != '\n') (s.drop k)
      rw [ht] at hc
      obtain rfl : c = '\n' := by simpa using hc
      exact .inr ⟨r, rfl⟩

/-- No line feed stands between a character and the end of its line. -/
theorem lineAt_lineEnd (s : List Char) (k : Nat) : lineAt s (lineEnd s k) = lineAt s k := by
  obtain ⟨w, t, hrest, hw, hend, -⟩ := exists_line s k
  rw [lineAt, hend, List.take_add, hrest, List.take_left, List.count_append,
    List.count_eq_zero.2 hw, Nat.add_zero]
  rfl

/-- What is not behind the end of a line is on the line, or on one before. -/
theorem le_lineEnd_iff (hj : j ≤ s.length) : j ≤ lineEnd s k ↔ lineAt s j ≤ lineAt s k := by
  refine ⟨fun h => lineAt_lineEnd s k ▸ lineAt_mono s h, fun h => Nat.le_of_not_lt fun hlt => ?_⟩
  obtain ⟨w, t, hrest, hw, hend, rfl | ⟨r, rfl⟩⟩ := exists_line s k
  · have hlength := congrArg List.length hrest
    rw [List.length_drop, List.append_nil] at hlength
    omega
  · have hnext : lineAt s (k + (w.length + 1)) = lineAt s k + 1 := by
      rw [lineAt, List.take_add, hrest, List.take_length_add_append, List.count_append,
        List.count_append, List.count_eq_zero.2 hw, Nat.zero_add]
      rfl
    have := lineAt_mono s (show k + (w.length + 1) ≤ j by omega)
    omega

/-- The end of a line is found by its offset. -/
theorem lineStop_offset (s : List Char) (k : Nat) :
    lineStop s (offset s k) = .ok (offset s (lineEnd s k)) := by
  obtain ⟨w, t, hrest, hw, hend, ht⟩ := exists_line s k
  have hoffset : offset s (lineEnd s k) = offset s k + byteLength w := by
    rw [hend, offset_add, hrest, offset_append]
  rw [lineStop, slice_end, hrest, hoffset]
  rcases ht with rfl | ⟨r, rfl⟩
  · rw [← offset_add_byteLength_drop s k, hrest, List.append_nil]
    simp only [bind, Except.bind, find?_of_notMem hw]
    rfl
  · simp only [bind, Except.bind, find?_append hw]
    rfl

/-! ### Headers -/

/-- The first match that begins on line `l`. -/
def opener? (s : List Char) (ms : List (Nat × Nat)) (l : Nat) : Option (Nat × Nat) :=
  ms.find? fun m => lineAt s m.1 == l

theorem opener?_cons_self : opener? s (m :: ms) (lineAt s m.1) = some m :=
  List.find?_cons_of_pos (beq_self_eq_true _)

theorem opener?_cons_of_ne {l : Nat} (h : lineAt s m.1 ≠ l) :
    opener? s (m :: ms) l = opener? s ms l :=
  List.find?_cons_of_neg fun heq => h (beq_iff_eq.1 heq)

/-- Nothing begins on a line if all matches begin behind it. -/
theorem opener?_eq_none {l : Nat} (h : ∀ m ∈ ms, l < lineAt s m.1) : opener? s ms l = none :=
  List.find?_eq_none.2 fun m hm heq => Nat.ne_of_gt (h m hm) (beq_iff_eq.1 heq)

/-- The first match on each of the lines from line `a` on, of those that have one. -/
def openersFrom (s : List Char) (a : Nat) (ms : List (Nat × Nat)) : List (Nat × Nat) :=
  (List.range' a (s.count '\n' + 1 - a)).filterMap (opener? s ms)

theorem openersFrom_nil (s : List Char) (a : Nat) : openersFrom s a [] = [] :=
  List.filterMap_eq_nil_iff.2 fun _ _ => rfl

/-- A match on an earlier line opens nothing. -/
theorem openersFrom_cons_of_lt {a : Nat} (h : lineAt s m.1 < a) :
    openersFrom s a (m :: ms) = openersFrom s a ms :=
  List.filterMap_congr fun _ hl =>
    opener?_cons_of_ne (Nat.ne_of_lt (Nat.lt_of_lt_of_le h (List.mem_range'_1.1 hl).1))

/-- A match opens a section if its line is not passed and no match is on a line before. -/
theorem openersFrom_cons {a : Nat} (h : a ≤ lineAt s m.1)
    (hms : ∀ n ∈ ms, lineAt s m.1 ≤ lineAt s n.1) :
    openersFrom s a (m :: ms) = m :: openersFrom s (lineAt s m.1 + 1) ms := by
  have hcount := lineAt_le_count s m.1
  have hsplit : List.range' a (s.count '\n' + 1 - a) =
      List.range' a (lineAt s m.1 - a) ++ lineAt s m.1 ::
        List.range' (lineAt s m.1 + 1) (s.count '\n' + 1 - (lineAt s m.1 + 1)) := by
    rw [← List.range'_succ, ← Nat.add_sub_of_le h, Nat.add_sub_cancel_left, List.range'_append_1]
    congr 1
    omega
  have hbefore : ∀ l ∈ List.range' a (lineAt s m.1 - a), opener? s (m :: ms) l = none := by
    intro l hl
    have hlt : l < lineAt s m.1 := by
      have := (List.mem_range'_1.1 hl).2
      omega
    exact opener?_eq_none (List.forall_mem_cons.2
      ⟨hlt, fun n hn => Nat.lt_of_lt_of_le hlt (hms n hn)⟩)
  rw [openersFrom, hsplit, List.filterMap_append, List.filterMap_eq_nil_iff.2 hbefore,
    List.nil_append, List.filterMap_cons_some opener?_cons_self]
  exact congrArg (m :: ·) (openersFrom_cons_of_lt (Nat.lt_succ_self _))

/-- Matches in order begin on ascending lines. -/
theorem lineAt_le_of_inOrder (hle : m.1 ≤ m.2) (h : Pattern.InOrder s.length m.2 ms) :
    ∀ n ∈ ms, lineAt s m.1 ≤ lineAt s n.1 :=
  fun n hn => lineAt_mono s (Nat.le_trans hle (h.bounds_of_mem n hn).1)

/-- The matches that open sections come in order like all matches. -/
theorem openersFrom_inOrder (a : Nat) (h : Pattern.InOrder s.length j ms) :
    Pattern.InOrder s.length j (openersFrom s a ms) := by
  induction h generalizing a with
  | nil h =>
    rw [openersFrom_nil]
    exact .nil h
  | @cons low m ms hlow hle h ih =>
    rcases Nat.lt_or_ge (lineAt s m.1) a with hlt | hge
    · rw [openersFrom_cons_of_lt hlt]
      exact (ih a).mono (Nat.le_trans hlow hle)
    · rw [openersFrom_cons hge (lineAt_le_of_inOrder hle h)]
      exact .cons hlow hle (ih _)

/-- The line from which on matches open sections, after a header at `passed`. -/
def nextLine (s : List Char) : Option Nat → Nat
  | none => 0
  | some k => lineAt s k + 1

/-- Headers are the first matches of the lines that are not passed. -/
theorem headersFrom_inBytes (passed : Option Nat) (h : Pattern.InOrder s.length j ms) :
    headersFrom s (passed.map fun k => offset s (lineEnd s k)) (ms.map (inBytes s)) =
      .ok ((openersFrom s (nextLine s passed) ms).map (inBytes s)) := by
  induction h generalizing passed with
  | nil _ => rw [openersFrom_nil]; rfl
  | @cons low m ms hlow hle h ih =>
    have hm : m.1 ≤ s.length := Nat.le_trans hle h.le
    have hpassed : (passed.map fun k => offset s (lineEnd s k)).any ((inBytes s m).1 ≤ ·) = true ↔
        lineAt s m.1 < nextLine s passed := by
      cases passed with
      | none => simp [nextLine]
      | some k =>
        rw [Option.map_some, Option.any_some, decide_eq_true_iff, inBytes_fst, offset_le_iff hm,
          le_lineEnd_iff hm, nextLine, Nat.lt_succ_iff]
    rw [List.map_cons, headersFrom]
    rcases Nat.lt_or_ge (lineAt s m.1) (nextLine s passed) with hlt | hge
    · rw [if_pos (hpassed.2 hlt), ih, openersFrom_cons_of_lt hlt]
    · have hrest := ih (some m.1)
      rw [Option.map_some] at hrest
      rw [if_neg fun hany => Nat.not_lt.2 hge (hpassed.1 hany),
        openersFrom_cons hge (lineAt_le_of_inOrder hle h)]
      simp only [inBytes_fst, lineStop_offset, bind, Except.bind, hrest]
      rfl

/-! ### Sections -/

/-- Where the first of some headers begins, or the end of the text. -/
def nextStart (s : List Char) (ms : List (Nat × Nat)) : Nat :=
  (ms.head?.map Prod.fst).getD s.length

theorem contentStop_inBytes (s : List Char) (ms : List (Nat × Nat)) :
    contentStop s (ms.map (inBytes s)) = offset s (nextStart s ms) := by
  cases ms with
  | nil => exact (offset_length s).symm
  | cons m ms => rfl

/-- Nothing begins in front of where matches may begin. -/
theorem le_nextStart (h : Pattern.InOrder s.length j ms) : j ≤ nextStart s ms := by
  cases h with
  | nil h => exact h
  | cons hlow _ _ => exact hlow

theorem extract_append_drop (s : List Char) (h : j ≤ k) : s.extract j k ++ s.drop k = s.drop j := by
  obtain ⟨d, rfl⟩ := Nat.le.dest h
  rw [List.extract_eq_take_drop, Nat.add_sub_cancel_left, ← List.drop_drop, List.take_append_drop]

/-- Sections begin with their headers and take up the text from the first header on. The cursor is
left at the beginning of a header, so it may be behind where matches may begin. -/
theorem sectionsFrom_inBytes (h : Pattern.InOrder s.length j ms) (hk : k ≤ j) :
    ∃ xs, sectionsFrom s (.at s k) (ms.map (inBytes s)) = .ok xs ∧
      xs.map (fun x => (x.start, x.header)) = ms.map (fun m => (m.1, s.extract m.1 m.2)) ∧
      (xs.map fun x => x.header ++ x.content).flatten = s.drop (nextStart s ms) := by
  induction h generalizing k with
  | nil _ => exact ⟨[], rfl, rfl, List.drop_length.symm⟩
  | @cons low m ms hlow hle h ih =>
    obtain ⟨xs, hxs, hmap, hflat⟩ := ih hle
    have hbehind := le_nextStart h
    have hok : sectionsFrom s (.at s k) ((m :: ms).map (inBytes s)) =
        .ok (⟨s.extract m.1 m.2, s.extract m.2 (nextStart s ms), m.1⟩ :: xs) := by
      rw [List.map_cons, sectionsFrom, contentStop_inBytes]
      simp only [inBytes_fst, inBytes_snd, slice_offset s hle, slice_offset s hbehind, bind,
        Except.bind, Cursor.advance_offset s (Nat.le_trans hk hlow) (Nat.le_trans hle h.le), hxs]
      rfl
    refine ⟨_, hok, ?_, ?_⟩
    · rw [List.map_cons, List.map_cons, hmap]
    · rw [List.map_cons, List.flatten_cons, hflat, List.append_assoc, extract_append_drop s hbehind,
        extract_append_drop s hle]
      rfl

/-- The first section begins with the first header. -/
theorem head?_start {xs : List Section} {hs : List (Nat × List Char)}
    (h : xs.map (fun x => (x.start, x.header)) = hs) :
    xs.head?.map (·.start) = hs.head?.map Prod.fst := by
  rw [← h, List.head?_map, Option.map_map]
  rfl

/-- The text is what stands before the first section and then the sections, whose headers are the
first matches of all lines on which a match begins. No slice breaks a character. -/
theorem sections_split {pattern : List Char} {p : Pattern.Program}
    (compiles : Pattern.compile pattern true = .ok p) (s : List Char) :
    ∃ xs, sectionsOrTrap s pattern = .ok (.ok xs) ∧ sections s pattern = .ok xs ∧
      xs.map (fun x => (x.start, x.header)) =
        ((List.range (s.count '\n' + 1)).filterMap fun l =>
          (Pattern.allMatches p s.toArray).find? fun m => (s.take m.1).count '\n' == l).map
            (fun m => (m.1, s.extract m.1 m.2)) ∧
      s.take ((xs.head?.map (·.start)).getD s.length) ++
        (xs.map fun x => x.header ++ x.content).flatten = s := by
  have hall := spans_inOrder p s
  obtain ⟨xs, hxs, hmap, hflat⟩ := sectionsFrom_inBytes (openersFrom_inOrder 0 hall) (Nat.le_refl 0)
  have hheaders : headersFrom s none (spans p s) = .ok (_ : List (Nat × Nat)) :=
    headersFrom_inBytes none hall
  have hok : sectionsOf s (spans p s) = .ok xs := by
    rw [sectionsOf, hheaders, ← Cursor.at_zero s]
    exact hxs
  have htrap : sectionsOrTrap s pattern = .ok (.ok xs) := by
    rw [sectionsOrTrap, compiles, Except.map, hok]
  refine ⟨xs, htrap, by rw [sections, htrap]; rfl, ?_, ?_⟩
  · rw [hmap, List.range_eq_range']
    rfl
  · rw [hflat, head?_start hmap, List.head?_map, Option.map_map]
    exact List.take_append_drop _ s

/-- Of two matches on each of two lines the first is a header. The line before has none. -/
theorem sections_split_lines : ∃ p, Pattern.compile ".".toList true = .ok p ∧ ∃ xs,
    sections "\néa\n😀b".toList ".".toList = .ok xs ∧
      xs.map (fun x => (x.start, x.header)) = [(1, ['é']), (4, ['😀'])] ∧
      '\n' :: (xs.map fun x => x.header ++ x.content).flatten = "\néa\n😀b".toList := by
  obtain ⟨p, compiles⟩ : ∃ p, Pattern.compile ".".toList true = .ok p := ⟨_, rfl⟩
  have hmatches : Pattern.allMatches p "\néa\n😀b".toList.toArray =
      [(1, 2), (2, 3), (4, 5), (5, 6)] := by
    obtain rfl := Except.ok.inj (compiles.symm.trans rfl)
    rfl
  obtain ⟨xs, -, hxs, hheaders, hsplit⟩ := sections_split compiles "\néa\n😀b".toList
  rw [hmatches] at hheaders
  rw [head?_start hheaders] at hsplit
  exact ⟨p, compiles, xs, hxs, hheaders, hsplit⟩

end LuaSession.Search
