import LuaSession.Proofs.Stream.Lines
import LuaSession.Proofs.Text.Decoding
import LuaSession.Proofs.Text.Lines
import Mathlib.Data.List.DropRight

/-!
# Lines of a stream and lines of its text

A stream is read piece by piece, and each piece is decoded by itself. That gives what decoding the
whole stream gives: a line feed is no part of a longer character, so nothing that is wrong with the
bytes of one line reaches another.

* `shownLines`: the lines of a text that are not blank.
* `lines_ofBytes`: the lines of a stream are those of its text.
* `reads_decoded`: what readings give, and what makes no difference to them.
-/

namespace LuaSession.Stream

open LuaSession.Text

/-- The lines of a text without the carriage returns at their ends, but for the blank ones. What
stands after the last line feed is a line as well; when it is empty, it is blank. -/
def shownLines (s : List Char) : List String :=
  (((s.splitOn '\n').map (List.rdropWhile (· == '\r'))).filter (!isBlankText ·)).map String.ofList

variable {s : List Char}

/-! ### Lines of a text -/

/-- A line feed ends a line, and the lines in front of it and behind it do not depend on each other. -/
theorem shownLines_feed (s t : List Char) :
    shownLines (s ++ '\n' :: t) = shownLines s ++ shownLines t := by
  simp only [shownLines, List.splitOn_append_cons_self, List.map_append, List.filter_append]

/-- A text without a line feed is one line. -/
theorem shownLines_unstopped (h : '\n' ∉ s) :
    shownLines s = if isBlankText (s.rdropWhile (· == '\r')) then []
      else [String.ofList (s.rdropWhile (· == '\r'))] := by
  rw [shownLines, List.splitOn_eq_singleton h, List.map_singleton]
  by_cases hblank : isBlankText (s.rdropWhile (· == '\r')) = true
  · simp [hblank]
  · simp [hblank]

/-- A carriage return at the end of a line is not shown. -/
theorem shownLines_return (s : List Char) : shownLines (s ++ ['\r']) = shownLines s := by
  induction s using stopInduction '\n' with
  | unstopped s hs =>
    have hreturn : '\n' ∉ s ++ ['\r'] := by simpa using hs
    rw [shownLines_unstopped hreturn, shownLines_unstopped hs, List.rdropWhile_concat_pos _ _ _ rfl]
  | stopped a b ha ih =>
    rw [List.append_assoc, List.cons_append, shownLines_feed, shownLines_feed, ih]

/-- What is left of a blank text is blank. -/
theorem isBlankText_rdropWhile (p : Char → Bool) (h : isBlankText s = true) :
    isBlankText (s.rdropWhile p) = true := by
  rw [isBlankText, List.all_eq_true] at h ⊢
  intro c hc
  exact h c ((List.rdropWhile_prefix p s).subset hc)

/-- Of a blank text nothing is shown. -/
theorem shownLines_blank (h : isBlankText s = true) : shownLines s = [] := by
  induction s using stopInduction '\n' with
  | unstopped s hs =>
    rw [shownLines_unstopped hs, if_pos (isBlankText_rdropWhile _ h)]
  | stopped a b ha ih =>
    rw [isBlankText, List.all_append, List.all_cons, Bool.and_eq_true, Bool.and_eq_true] at h
    rw [shownLines_feed, ih h.2.2, List.append_nil, shownLines_unstopped ha,
      if_pos (isBlankText_rdropWhile _ h.1)]

/-! ### Lines of a stream -/

theorem dropWhileEnd_eq_rdropWhile (p : Char → Bool) (s : List Char) :
    dropWhileEnd p s = s.rdropWhile p := by
  induction s using List.reverseRecOn with
  | nil => rfl
  | append_singleton s c ih => rw [dropWhileEnd_concat, List.rdropWhile_concat, ih]

/-- Where there is no line feed, only carriage returns end the line. -/
theorem dropWhileEnd_isLineEnd (h : '\n' ∉ s) :
    dropWhileEnd isLineEnd s = s.rdropWhile (· == '\r') := by
  rw [dropWhileEnd_eq_rdropWhile]
  induction s using List.reverseRecOn with
  | nil => rfl
  | append_singleton s c ih =>
    obtain ⟨hs, hc⟩ := not_or.mp (mt List.mem_append.mpr h)
    have hend : isLineEnd c = (c == '\r') := by
      rw [isLineEnd, beq_false_of_ne fun heq => hc (by simp [heq]), Bool.false_or]
    rw [List.rdropWhile_concat, List.rdropWhile_concat, hend, ih hs]

/-- The line in bytes without a line feed, whether or not one ends them. -/
theorem shownLine_unstopped {bs : List UInt8} (h : 0x0A ∉ bs) :
    (shownLine bs).toList = shownLines (Utf8.decode bs) ∧
      (shownLine (bs ++ [0x0A])).toList = shownLines (Utf8.decode bs) := by
  have hfeed := Utf8.newline_notMem_decode h
  have hline : lineOf bs = (Utf8.decode bs).rdropWhile (· == '\r') := dropWhileEnd_isLineEnd hfeed
  have hstopped : lineOf (bs ++ [0x0A]) = lineOf bs := by
    rw [lineOf, Utf8.decode_append_ascii bs (by decide)]
    exact dropWhileEnd_concat isLineEnd _ '\n'
  rw [shownLine, shownLine, hstopped, hline, shownLines_unstopped hfeed]
  split
  · exact ⟨rfl, rfl⟩
  · exact ⟨rfl, rfl⟩

/-- A line feed among the bytes is one in the text, and separates what stands on its two sides. -/
theorem shownLines_decode_feed (a b : List UInt8) :
    shownLines (Utf8.decode (a ++ 0x0A :: b)) =
      shownLines (Utf8.decode a) ++ shownLines (Utf8.decode b) := by
  rw [Utf8.decode_append_ascii a (by decide)]
  exact shownLines_feed _ _

theorem filterMap_shownLine (l : List UInt8) (ls : List (List UInt8)) :
    (l :: ls).filterMap shownLine = (shownLine l).toList ++ ls.filterMap shownLine := by
  cases hline : shownLine l with
  | none => exact List.filterMap_cons_none hline
  | some line => exact List.filterMap_cons_some hline

/-- The lines of a stream are those of its text. -/
theorem lines_ofBytes (bytes : List UInt8) :
    (Inbound.ofBytes bytes).lines = shownLines (Utf8.decode bytes) := by
  change (pieces 0x0A bytes).filterMap shownLine = _
  induction bytes using stopInduction (0x0A : UInt8) with
  | unstopped bs hbs =>
    by_cases hnil : bs = []
    · rw [hnil]
      rfl
    · rw [pieces_unstopped hbs hnil, filterMap_shownLine, (shownLine_unstopped hbs).1,
        List.filterMap_nil, List.append_nil]
  | stopped a b ha ih =>
    rw [pieces_stopped ha, shownLines_decode_feed, filterMap_shownLine, (shownLine_unstopped ha).2,
      ih]

/-! ### Streams made of lines -/

/-- A carriage return in front of the line feed makes no difference. -/
theorem shownLines_decode_return (a b : List UInt8) :
    shownLines (Utf8.decode (a ++ 0x0D :: 0x0A :: b)) =
      shownLines (Utf8.decode a) ++ shownLines (Utf8.decode b) := by
  have hsplit : a ++ 0x0D :: 0x0A :: b = (a ++ [0x0D]) ++ 0x0A :: b := by simp
  have hreturn : Utf8.decode (a ++ [0x0D]) = Utf8.decode a ++ ['\r'] :=
    Utf8.decode_append_ascii a (by decide) []
  rw [hsplit, shownLines_decode_feed, hreturn, shownLines_return]

/-- Lines are shown one after the other, if what is between them separates what stands on its two
sides. -/
theorem shownLines_intercalate {between : List UInt8}
    (h : ∀ a b, shownLines (Utf8.decode (a ++ (between ++ b))) =
      shownLines (Utf8.decode a) ++ shownLines (Utf8.decode b)) (ls : List (List UInt8)) :
    shownLines (Utf8.decode (between.intercalate ls)) =
      ls.flatMap fun l => shownLines (Utf8.decode l) := by
  induction ls with
  | nil => rfl
  | cons l ls ih =>
    cases ls with
    | nil => simp [List.intercalate]
    | cons l' ls =>
      rw [List.flatMap_cons, ← ih, ← h]
      rfl

/-! ### Readings -/

/-- Readings of one stream give one sequence of lines. -/
theorem Transport.Reads.unique {t : Transport} {lines lines' : List String} (h : t.Reads lines)
    (h' : t.Reads lines') : lines = lines' := by
  induction h generalizing lines' with
  | ended hend =>
    cases h' with
    | ended _ => rfl
    | line hline _ => cases hend.symm.trans hline
  | line hline _ ih =>
    cases h' with
    | ended hend => cases hend.symm.trans hline
    | line hline' hrest =>
      cases hline.symm.trans hline'
      rw [ih hrest]

/-- Readings give the lines of the text, and no others. -/
theorem reads_iff (bytes : List UInt8) (o : Outbound) (lines : List String) :
    Transport.Reads ⟨.ofBytes bytes, o⟩ lines ↔ lines = shownLines (Utf8.decode bytes) := by
  have hreads := Transport.reads_lines (t := ⟨.ofBytes bytes, o⟩) rfl
  dsimp only at hreads
  rw [lines_ofBytes] at hreads
  constructor
  · intro h
    exact h.unique hreads
  · rintro rfl
    exact hreads

/-- **A stream is read as its text.** Readings come to the end of every stream of bytes, and give the
lines of its text that are not blank. So the lines of a stream do not depend on each other, blank lines among them are invisible, and
a carriage return in front of a line feed makes no difference. -/
theorem reads_decoded (bytes : List UInt8) (ls : List (List UInt8)) (o : Outbound)
    (lines : List String) :
    (Transport.Reads ⟨.ofBytes bytes, o⟩ lines ↔ lines = shownLines (Utf8.decode bytes)) ∧
      (Transport.Reads ⟨.ofBytes ([0x0A].intercalate ls), o⟩ lines ↔
        lines = ls.flatMap fun l => shownLines (Utf8.decode l)) ∧
      (Transport.Reads ⟨.ofBytes ([0x0A].intercalate
          (ls.filter fun l => !isBlankText (Utf8.decode l))), o⟩ lines ↔
        Transport.Reads ⟨.ofBytes ([0x0A].intercalate ls), o⟩ lines) ∧
      (Transport.Reads ⟨.ofBytes ([0x0D, 0x0A].intercalate ls), o⟩ lines ↔
        Transport.Reads ⟨.ofBytes ([0x0A].intercalate ls), o⟩ lines) := by
  have hshown : (ls.filter fun l => !isBlankText (Utf8.decode l)).flatMap
      (fun l => shownLines (Utf8.decode l)) = ls.flatMap fun l => shownLines (Utf8.decode l) := by
    induction ls with
    | nil => rfl
    | cons l ls ih =>
      by_cases hblank : isBlankText (Utf8.decode l) = true
      · rw [List.filter_cons_of_neg (by simp [hblank]), ih, List.flatMap_cons,
          shownLines_blank hblank, List.nil_append]
      · rw [List.filter_cons_of_pos (by simp [hblank]), List.flatMap_cons, ih, List.flatMap_cons]
  rw [reads_iff, reads_iff, reads_iff, reads_iff, shownLines_intercalate shownLines_decode_feed,
    shownLines_intercalate shownLines_decode_feed, shownLines_intercalate shownLines_decode_return,
    hshown]
  exact ⟨Iff.rfl, Iff.rfl, Iff.rfl, Iff.rfl⟩

end LuaSession.Stream
