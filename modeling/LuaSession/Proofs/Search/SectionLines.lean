import LuaSession.Proofs.Search.Sections
import LuaSession.Proofs.Text.Lines
import LuaSession.Search.Line

/-!
# Sections and the lines on which they open

A header pattern is run over the whole text, with the line ends in it, and not over the lines. So a
section may open behind the last line, where a text that ends with a line feed ends, and what a pattern
says about the end of a line does not hold in front of a carriage return.

* `length_lines`: how many lines a text has.
* `sections_lines`: the lines on which sections open, and when these are lines of the text.
* `sections_beside_lines`: a section behind the last line, and a section that a carriage return prevents.
-/

namespace LuaSession.Search

open LuaSession.Text

variable {s : List Char} {ms : List (Nat × Nat)}

/-! ### Counting lines -/

/-- There is nothing behind the last line feed. -/
def Ended (s : List Char) : Prop := s = [] ∨ ∃ t, s = t ++ ['\n']

theorem ended_append {a b : List Char} : Ended (a ++ '\n' :: b) ↔ Ended b := by
  constructor
  · rintro (hnil | ⟨t, ht⟩)
    · simp at hnil
    · rcases List.eq_nil_or_concat b with rfl | ⟨b, c, rfl⟩
      · exact .inl rfl
      · rw [List.concat_eq_append, ← List.cons_append, ← List.append_assoc] at ht
        obtain ⟨-, hc⟩ := List.append_inj' ht rfl
        cases hc
        exact .inr ⟨b, List.concat_eq_append⟩
  · rintro (rfl | ⟨t, rfl⟩)
    · exact .inr ⟨a, rfl⟩
    · exact .inr ⟨a ++ '\n' :: t, by simp⟩

/-- A text has as many lines as line feeds, and one more if there is something behind the last. -/
theorem length_lines (s : List Char) :
    (Ended s → (lines s).length = s.count '\n') ∧
      (¬Ended s → (lines s).length = s.count '\n' + 1) := by
  induction s using stopInduction '\n' with
  | unstopped s hs =>
    rw [List.count_eq_zero.mpr hs]
    by_cases hnil : s = []
    · subst hnil
      exact ⟨fun _ => rfl, fun h => absurd (.inl rfl) h⟩
    · rw [lines_unstopped hs hnil]
      refine ⟨?_, fun _ => rfl⟩
      rintro (h | ⟨t, rfl⟩)
      · exact absurd h hnil
      · simp at hs
  | stopped a b ha ih =>
    rw [ended_append, lines_stopped ha, List.length_cons, List.count_append,
      List.count_eq_zero.mpr ha, List.count_cons_self]
    exact ⟨fun h => by rw [ih.1 h]; omega, fun h => by rw [ih.2 h]; omega⟩

/-- A text that is ended has no character on a line behind the last. -/
theorem lineAt_eq_count (h : Ended s) {k : Nat} (hk : k ≤ s.length) :
    lineAt s k = s.count '\n' ↔ k = s.length := by
  constructor
  · intro hline
    rcases h with rfl | ⟨t, rfl⟩
    · simpa using hk
    · by_contra hne
      have hinside : k ≤ t.length := by
        rw [List.length_append, List.length_singleton] at hk hne
        omega
      have hcount := lineAt_le_count t k
      rw [lineAt, List.take_append_of_le_length hinside, List.count_append] at hline
      rw [lineAt, hline, List.count_singleton_self] at hcount
      exact absurd hcount (Nat.not_succ_le_self _)
  · rintro rfl
    rw [lineAt, List.take_length]

/-- Carriage returns make no lines. -/
theorem count_returned (s : List Char) : (returned s).count '\n' = s.count '\n' := by
  induction s using stopInduction '\n' with
  | unstopped s hs => rw [returned, marked_unstopped _ hs]
  | stopped a b ha ih =>
    rw [returned] at ih ⊢
    rw [marked_stopped _ ha, List.count_append, List.count_append, List.count_cons_of_ne (by decide),
      List.count_cons_self, List.count_cons_self, ih]

/-! ### Lines on which matches begin -/

/-- Whether a match begins on line `l`. -/
def beginsOn (s : List Char) (ms : List (Nat × Nat)) (l : Nat) : Bool :=
  ms.any fun m => lineAt s m.1 == l

theorem beginsOn_iff {l : Nat} : beginsOn s ms l = true ↔ ∃ m ∈ ms, lineAt s m.1 = l := by
  simp [beginsOn]

/-- No match begins behind the lines that line feeds separate. -/
theorem mem_beginsOn {l : Nat} : l ∈ (List.range (s.count '\n' + 1)).filter (beginsOn s ms) ↔
    ∃ m ∈ ms, lineAt s m.1 = l := by
  rw [List.mem_filter, beginsOn_iff, List.mem_range]
  constructor
  · exact And.right
  · rintro ⟨m, hm, rfl⟩
    exact ⟨Nat.lt_succ_of_le (lineAt_le_count s m.1), m, hm, rfl⟩

/-- The matches that open sections begin on the lines on which matches begin. -/
theorem openersFrom_lines (s : List Char) (a : Nat) (ms : List (Nat × Nat)) :
    (openersFrom s a ms).map (fun m => lineAt s m.1) =
      (List.range' a (s.count '\n' + 1 - a)).filter (beginsOn s ms) := by
  rw [openersFrom]
  generalize List.range' a (s.count '\n' + 1 - a) = ls
  induction ls with
  | nil => rfl
  | cons l ls ih =>
    rw [List.filterMap_cons, List.filter_cons]
    cases hopener : opener? s ms l with
    | none =>
      have hnone : beginsOn s ms l = false := by
        rw [opener?, List.find?_eq_none] at hopener
        simpa [beginsOn] using hopener
      rw [hnone]
      exact ih
    | some m =>
      have hline : lineAt s m.1 = l := by
        have hm := List.find?_some hopener
        exact eq_of_beq hm
      have hsome : beginsOn s ms l = true :=
        beginsOn_iff.mpr ⟨m, List.mem_of_find?_eq_some hopener, hline⟩
      rw [hsome, if_pos rfl, ← ih, List.map_cons, hline]

/-! ### Sections -/

/-- The number of the line on which a section opens, counted from 1. -/
def Section.line (s : List Char) (x : Section) : Nat :=
  lineAt s x.start + 1

/-- Sections open with matches, one on each line on which a match begins. -/
theorem exists_sections {pattern : List Char} {p : Pattern.Program}
    (compiles : Pattern.compile pattern true = .ok p) (s : List Char) :
    ∃ xs, sections s pattern = .ok xs ∧
      (∀ x ∈ xs, ∃ m ∈ Pattern.allMatches p s.toArray, x.start = m.1 ∧
        x.header = s.extract m.1 m.2) ∧
      xs.map (Section.line s) = ((List.range (s.count '\n' + 1)).filter
        (beginsOn s (Pattern.allMatches p s.toArray))).map (· + 1) := by
  have hall := spans_inOrder p s
  obtain ⟨xs, hxs, hmap, -⟩ := sectionsFrom_inBytes (openersFrom_inOrder 0 hall) (Nat.le_refl 0)
  have hheaders : headersFrom s none (spans p s) = .ok (_ : List (Nat × Nat)) :=
    headersFrom_inBytes none hall
  have hok : sectionsOf s (spans p s) = .ok xs := by
    rw [sectionsOf, hheaders, ← Cursor.at_zero s]
    exact hxs
  refine ⟨xs, ?_, fun x hx => ?_, ?_⟩
  · rw [sections, sectionsOrTrap, compiles, Except.map, hok]
    rfl
  · have hheader : (x.start, x.header) ∈ xs.map fun x => (x.start, x.header) :=
      List.mem_map_of_mem hx
    rw [hmap] at hheader
    obtain ⟨m, hm, heq⟩ := List.mem_map.mp hheader
    obtain ⟨l, -, hopener⟩ := List.mem_filterMap.mp hm
    obtain ⟨hstart, hheader⟩ := Prod.mk.inj heq
    exact ⟨m, List.mem_of_find?_eq_some hopener, hstart.symm, hheader.symm⟩
  · have hstarts := congrArg (List.map fun e => lineAt s e.1 + 1) hmap
    rw [List.map_map, List.map_map] at hstarts
    have hlines := congrArg (List.map (· + 1))
      (openersFrom_lines s 0 (Pattern.allMatches p s.toArray))
    rw [List.map_map, Nat.sub_zero, ← List.range_eq_range'] at hlines
    exact hstarts.trans hlines

/-- A section opens behind the last line only where the text ends, if there is no line at its end. -/
theorem le_length_lines_iff {k : Nat} (hk : k ≤ s.length) :
    lineAt s k + 1 ≤ (lines s).length ↔ ¬(Ended s ∧ k = s.length) := by
  have hcount := lineAt_le_count s k
  by_cases hended : Ended s
  · rw [(length_lines s).1 hended, ← lineAt_eq_count hended hk]
    constructor
    · rintro hlt ⟨-, heq⟩
      omega
    · intro hinside
      have hne : lineAt s k ≠ s.count '\n' := fun heq => hinside ⟨hended, heq⟩
      omega
  · rw [(length_lines s).2 hended]
    exact ⟨fun _ h => hended h.1, fun _ => by omega⟩

/-- **Where sections open.** Always at most one section opens on a line, in the order of the lines, and
one opens on each line on which a match begins. All of them open on lines of the text exactly if no match
begins at the end of a text that is empty or ends with a line feed; a section that does not has an empty
header at the end of the text. With carriage returns in front of all line feeds sections open on the same
lines exactly if matches begin on the same lines. -/
theorem sections_lines {pattern : List Char} {p : Pattern.Program}
    (compiles : Pattern.compile pattern true = .ok p) (s : List Char) :
    ∃ xs total ys, sections s pattern = .ok xs ∧ countLines s none = .ok total ∧
      sections (returned s) pattern = .ok ys ∧
      (xs.map (Section.line s)).Pairwise (· < ·) ∧
      (∀ n, n ∈ xs.map (Section.line s) ↔
        ∃ m ∈ Pattern.allMatches p s.toArray, lineAt s m.1 + 1 = n) ∧
      ((∀ x ∈ xs, 1 ≤ x.line s ∧ x.line s ≤ total) ↔
        ¬(Ended s ∧ ∃ m ∈ Pattern.allMatches p s.toArray, m.1 = s.length)) ∧
      (∀ x ∈ xs, total < x.line s → x.start = s.length ∧ x.header = []) ∧
      (ys.map (Section.line (returned s)) = xs.map (Section.line s) ↔
        ∀ l, (∃ m ∈ Pattern.allMatches p s.toArray, lineAt s m.1 = l) ↔
          ∃ m ∈ Pattern.allMatches p (returned s).toArray, lineAt (returned s) m.1 = l) := by
  obtain ⟨xs, hxs, hopened, hlines⟩ := exists_sections compiles s
  obtain ⟨ys, hys, -, hreturned⟩ := exists_sections compiles (returned s)
  have hall := (spans_inOrder p s).bounds_of_mem
  have hmem (n : Nat) : n ∈ xs.map (Section.line s) ↔
      ∃ m ∈ Pattern.allMatches p s.toArray, lineAt s m.1 + 1 = n := by
    rw [hlines, List.mem_map]
    constructor
    · rintro ⟨l, hl, rfl⟩
      obtain ⟨m, hm, rfl⟩ := mem_beginsOn.mp hl
      exact ⟨m, hm, rfl⟩
    · rintro ⟨m, hm, rfl⟩
      exact ⟨_, mem_beginsOn.mpr ⟨m, hm, rfl⟩, rfl⟩
  refine ⟨xs, _, ys, hxs, rfl, hys, ?_, hmem, ?_, fun x hx hbehind => ?_, ?_⟩
  · rw [hlines, List.pairwise_map]
    exact (List.pairwise_lt_range.filter _).imp Nat.succ_lt_succ
  · constructor
    · rintro h ⟨hended, m, hm, hend⟩
      obtain ⟨x, hx, hline⟩ := List.mem_map.mp ((hmem _).mpr ⟨m, hm, rfl⟩)
      have hle := (h x hx).2
      rw [hline] at hle
      exact (le_length_lines_iff (Nat.le_of_eq hend)).mp hle ⟨hended, hend⟩
    · intro h x hx
      obtain ⟨m, hm, hstart, -⟩ := hopened x hx
      refine ⟨Nat.le_add_left 1 _, ?_⟩
      rw [Section.line, hstart]
      obtain ⟨-, hle, hle'⟩ := hall m hm
      exact (le_length_lines_iff (Nat.le_trans hle hle')).mpr fun hend => h ⟨hend.1, m, hm, hend.2⟩
  · obtain ⟨m, hm, hstart, hheader⟩ := hopened x hx
    obtain ⟨-, hle, hle'⟩ := hall m hm
    rw [Section.line, hstart] at hbehind
    have hend : m.1 = s.length := by
      by_contra hne
      have hline := (le_length_lines_iff (Nat.le_trans hle hle')).mpr fun h => hne h.2
      omega
    rw [hstart, hheader, hend]
    exact ⟨rfl, by simp⟩
  · rw [hlines, hreturned, List.map_inj_right fun _ _ => Nat.succ.inj]
    constructor
    · intro h l
      rw [← mem_beginsOn, ← mem_beginsOn, h]
    · intro h
      rw [count_returned]
      refine List.filter_congr fun l _ => Bool.eq_iff_iff.mpr ?_
      rw [beginsOn_iff, beginsOn_iff]
      exact (h l).symm

/-- Two lines, of which the first is empty; their beginnings are the same with either line end. -/
theorem sections_lines_two : ∃ p, Pattern.compile "^".toList true = .ok p ∧
    countLines "\na".toList none = .ok 2 ∧
    ∃ xs ys, sections "\na".toList "^".toList = .ok xs ∧ sections "\r\na".toList "^".toList = .ok ys ∧
      xs.map (Section.line "\na".toList) = [1, 2] ∧
      (∀ x ∈ xs, 1 ≤ x.line "\na".toList ∧ x.line "\na".toList ≤ 2) ∧
      ys.map (Section.line "\r\na".toList) = [1, 2] := by
  obtain ⟨p, compiles⟩ : ∃ p, Pattern.compile "^".toList true = .ok p := ⟨_, rfl⟩
  have hmatches : Pattern.allMatches p "\na".toList.toArray = [(0, 0), (1, 1)] := by
    obtain rfl := Except.ok.inj (compiles.symm.trans rfl)
    rfl
  have hreturned : Pattern.allMatches p "\r\na".toList.toArray = [(0, 0), (2, 2)] := by
    obtain rfl := Except.ok.inj (compiles.symm.trans rfl)
    rfl
  have hfound : sections "\na".toList "^".toList =
      .ok [⟨[], ['\n'], 0⟩, ⟨[], ['a'], 1⟩] := rfl
  have htwo : countLines "\na".toList none = .ok 2 := rfl
  have hreturn : returned "\na".toList = "\r\na".toList := by decide +kernel
  obtain ⟨xs, total, ys, hxs, htotal, hys, -, -, hinside, -, hsame⟩ :=
    sections_lines compiles "\na".toList
  obtain rfl := Except.ok.inj (hfound.symm.trans hxs)
  obtain rfl := Except.ok.inj (htwo.symm.trans htotal)
  rw [hreturn] at hys hsame
  rw [hmatches] at hinside
  rw [hmatches, hreturned] at hsame
  refine ⟨p, compiles, htwo, _, ys, hfound, hys, rfl, hinside.mpr ?_, hsame.mpr fun l => ?_⟩
  · rintro ⟨-, m, hm, hend⟩
    have hlength : "\na".toList.length = 2 := rfl
    rw [hlength] at hend
    simp only [List.mem_cons, List.not_mem_nil, or_false] at hm
    rcases hm with rfl | rfl
    · exact absurd hend (by decide)
    · exact absurd hend (by decide)
  · simp [lineAt]

/-- **Where sections do not follow lines.** The one line of a text gets two sections, of which the second
opens behind it; so does an empty text, which has no line. A carriage return keeps an empty line from
opening a section. -/
theorem sections_beside_lines :
    countLines "a\n".toList none = .ok 1 ∧
      sections "a\n".toList "^".toList = .ok [⟨[], ['a', '\n'], 0⟩, ⟨[], [], 2⟩] ∧
      Section.line "a\n".toList ⟨[], [], 2⟩ = 2 ∧
    countLines [] none = .ok 0 ∧ sections [] "^".toList = .ok [⟨[], [], 0⟩] ∧
    '\r' ∉ "\na".toList ∧ returned "\na".toList = "\r\na".toList ∧
      sections "\na".toList "^$".toList = .ok [⟨[], ['\n', 'a'], 0⟩] ∧
      sections "\r\na".toList "^$".toList = .ok [] := by
  decide +kernel

end LuaSession.Search
