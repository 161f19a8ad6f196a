import LuaSession.Proofs.Text.Lines
import LuaSession.Proofs.Text.Utf8
import LuaSession.Stream.Ports

/-!
# Lines taken and lines sent

What one reading takes from a stream and one writing adds to another.

* `Inbound.lines`: the lines of a stream that are not blank.
* `Transport.readLine_some`, `Transport.readLine_none`: a reading takes the first of them, and gives
  none exactly when none is left and the stream does not fail.
* `nextLine_readable`: what a reading takes when the stream may fail.
* `lines_encode_append`: the bytes of a line are read as that line, whatever comes after them.
* `Transport.writeLine_open`: where no write fails, a line is written whole.
* `Transport.carries_lines`: lines that are sent arrive in order, and then the end.
-/

namespace LuaSession.Stream

open LuaSession.Text

/-! ### Reading -/

/-- The line in a piece if it is not blank. -/
def shownLine (piece : List UInt8) : Option String :=
  if isBlankText (lineOf piece) then none else some (String.ofList (lineOf piece))

/-- The lines of a stream that are not blank. -/
def Inbound.lines (i : Inbound) : List String :=
  i.pieces.filterMap shownLine

/-- What one reading gives, by what it finds: a line, the end, or the failure of the stream. -/
theorem nextLine_cases (failure : Option String) (ps : List (List UInt8)) :
    (∃ l ps', nextLine failure ps = (.ok (some l), ps') ∧
      ps.filterMap shownLine = l :: ps'.filterMap shownLine) ∨
    (failure = none ∧ nextLine failure ps = (.ok none, []) ∧ ps.filterMap shownLine = []) ∨
    (∃ f, failure = some f ∧ nextLine failure ps = (.error (.read f), [])) := by
  induction ps with
  | nil =>
    cases failure with
    | none => exact .inr (.inl ⟨rfl, rfl, rfl⟩)
    | some f => exact .inr (.inr ⟨f, rfl, rfl⟩)
  | cons p ps ih =>
    unfold nextLine
    split
    · exact .inr (.inr ⟨_, rfl, rfl⟩)
    · dsimp only
      split
      case isTrue h =>
        rw [List.filterMap_cons_none (by rw [shownLine, if_pos h])]
        exact ih
      case isFalse h =>
        refine .inl ⟨_, ps, rfl, ?_⟩
        rw [List.filterMap_cons_some (by rw [shownLine, if_neg h])]

namespace Transport

variable {t t' : Transport}

/-- A reading takes the first line that is left, finds the end, or fails as the stream does. -/
theorem readLine_cases (t : Transport) : ∃ result t', t.readLine = (result, t') ∧
    t'.inbound.failure = t.inbound.failure ∧ t'.outbound = t.outbound ∧
      match result with
      | .ok (some line) => t.inbound.lines = line :: t'.inbound.lines
      | .ok none => t.inbound.lines = [] ∧ t.inbound.failure = none ∧ t'.inbound.lines = []
      | .error _ => t.inbound.failure ≠ none := by
  unfold readLine
  obtain ⟨l, ps, hn, hl⟩ | ⟨hf, hn, hl⟩ | ⟨f, hf, hn⟩ :=
    nextLine_cases t.inbound.failure t.inbound.pieces
  · rw [hn]
    exact ⟨_, _, rfl, rfl, rfl, hl⟩
  · rw [hn]
    exact ⟨_, _, rfl, rfl, rfl, hl, hf, rfl⟩
  · rw [hn]
    exact ⟨_, _, rfl, rfl, rfl, by rw [hf]; exact Option.some_ne_none f⟩

/-- A line that is read is the first that is left. -/
theorem readLine_some {line : String} (h : t.readLine = (.ok (some line), t')) :
    t.inbound.lines = line :: t'.inbound.lines ∧ t'.inbound.failure = t.inbound.failure ∧
      t'.outbound = t.outbound := by
  obtain ⟨_, _, hread, hfailure, hout, hlines⟩ := t.readLine_cases
  rw [hread] at h
  cases h
  exact ⟨hlines, hfailure, hout⟩

/-- The end is read when no line is left, of a stream that does not fail. -/
theorem readLine_none (h : t.readLine = (.ok none, t')) :
    t.inbound.lines = [] ∧ t.inbound.failure = none ∧ t'.inbound.lines = [] ∧
      t'.inbound.failure = none ∧ t'.outbound = t.outbound := by
  obtain ⟨_, _, hread, hfailure, hout, hended⟩ := t.readLine_cases
  rw [hread] at h
  cases h
  obtain ⟨hlines, hnone, hend⟩ := hended
  exact ⟨hlines, hnone, hend, hfailure.trans hnone, hout⟩

/-- A reading fails only with the failure of the stream. -/
theorem readLine_error {e : TransportError} (h : t.readLine = (.error e, t')) :
    t.inbound.failure ≠ none ∧ t'.inbound.failure = t.inbound.failure ∧
      t'.outbound = t.outbound := by
  obtain ⟨_, _, hread, hfailure, hout, hfails⟩ := t.readLine_cases
  rw [hread] at h
  cases h
  exact ⟨hfails, hfailure, hout⟩

end Transport

/-- The lines among pieces that readings give: those that are not blank, without a last one that the
failure of the stream cuts off. -/
def readableFrom (failure : Option String) : List (List UInt8) → List String
  | [] => []
  | p :: ps =>
    if ps.isEmpty && p.getLast? != some 0x0A && failure.isSome then []
    else (shownLine p).toList ++ readableFrom failure ps

/-- The lines of a stream that readings give. -/
def Inbound.readable (i : Inbound) : List String :=
  readableFrom i.failure i.pieces

/-- What a reading gives that finds no line: the failure of the stream, or else its end. -/
def endOf : Option String → Except TransportError (Option String)
  | some f => .error (.read f)
  | none => .ok none

/-- A reading gives the first line that readings give; if there is none, it gives the end of the
stream, or its failure. -/
theorem nextLine_readable (failure : Option String) (ps : List (List UInt8)) :
    (∃ line ps', nextLine failure ps = (.ok (some line), ps') ∧
      readableFrom failure ps = line :: readableFrom failure ps') ∨
    (nextLine failure ps = (endOf failure, []) ∧ readableFrom failure ps = []) := by
  induction ps with
  | nil => cases failure <;> exact .inr ⟨rfl, rfl⟩
  | cons p ps ih =>
    have hreadable : readableFrom failure (p :: ps) =
        if ps.isEmpty && p.getLast? != some 0x0A && failure.isSome then []
        else (shownLine p).toList ++ readableFrom failure ps := rfl
    have hwhole (h : (ps.isEmpty && p.getLast? != some 0x0A && failure.isSome) = false) :
        nextLine failure (p :: ps) = if isBlankText (lineOf p) then nextLine failure ps
          else (.ok (some (String.ofList (lineOf p))), ps) := by
      rw [nextLine]
      rintro f hlast rfl
      rw [hlast] at h
      cases h
    by_cases hcut : (ps.isEmpty && p.getLast? != some 0x0A && failure.isSome) = true
    · obtain ⟨hlast, hfails⟩ := Bool.and_eq_true_iff.mp hcut
      obtain ⟨f, rfl⟩ := Option.isSome_iff_exists.mp hfails
      refine .inr ⟨?_, by rw [hreadable, if_pos hcut]⟩
      rw [nextLine]
      · rfl
      · exact hlast
    · rw [hreadable, if_neg hcut, hwhole (Bool.eq_false_iff.mpr hcut), shownLine]
      split
      · exact ih
      · exact .inl ⟨_, ps, rfl, rfl⟩

/-- Readings one after the other give the lines, and then the end of the stream. -/
inductive Transport.Reads : Transport → List String → Prop
  | ended {t t' : Transport} : t.readLine = (.ok none, t') → Reads t []
  | line {t t' : Transport} {line : String} {lines : List String} :
      t.readLine = (.ok (some line), t') → Reads t' lines → Reads t (line :: lines)

/-- From a stream that does not fail, readings give its lines that are not blank. -/
theorem Transport.reads_lines {t : Transport} (hf : t.inbound.failure = none) :
    t.Reads t.inbound.lines := by
  generalize hlines : t.inbound.lines = lines
  induction lines generalizing t with
  | nil =>
    rcases hr : t.readLine with ⟨e | _ | line, t'⟩
    · exact absurd hf (readLine_error hr).1
    · exact .ended hr
    · rw [(readLine_some hr).1] at hlines
      cases hlines
  | cons line lines ih =>
    rcases hr : t.readLine with ⟨e | _ | line', t'⟩
    · exact absurd hf (readLine_error hr).1
    · rw [(readLine_none hr).1] at hlines
      cases hlines
    · obtain ⟨hl, hf', -⟩ := readLine_some hr
      rw [hl] at hlines
      cases hlines
      exact .line hr (ih (hf'.trans hf) rfl)

/-! ### A line from end to end -/

/-- A line that can be sent as it is: no control character stands in it, and it is not blank. -/
structure Sendable (line : List Char) : Prop where
  printable : ∀ c ∈ line, 0x20 ≤ c.toNat
  shown : isBlankText line = false

/-- Of a given line it can be computed. -/
theorem Sendable.of_all {line : List Char} (h : line.all (decide <| 0x20 ≤ ·.toNat) = true)
    (hshown : isBlankText line = false) : Sendable line :=
  ⟨by simpa only [List.all_eq_true, decide_eq_true_eq] using h, hshown⟩

/-- It is not empty. -/
theorem Sendable.isEmpty {line : List Char} (h : Sendable line) :
    (String.ofList line).isEmpty = false := by
  have hshown := h.shown
  rw [← Bool.not_eq_true, String.isEmpty_iff]
  intro hs
  rw [← String.toList_ofList (l := line), hs] at hshown
  cases hshown

/-- Line ends behind a text without any are dropped, and nothing else. -/
theorem dropWhileEnd_newline {s : List Char} (h : ∀ c ∈ s, isLineEnd c = false) :
    dropWhileEnd isLineEnd (s ++ ['\n']) = s := by
  have hfeed : isLineEnd '\n' = true := by decide
  rw [dropWhileEnd_concat, if_pos hfeed]
  rcases List.eq_nil_or_concat s with rfl | ⟨a, c, rfl⟩
  · rfl
  · have hc : isLineEnd c = false := h c (by simp)
    rw [List.concat_eq_append, dropWhileEnd_concat, hc, if_neg Bool.false_ne_true]

/-- The bytes of a line that can be sent are read as that line, whatever comes after them. -/
theorem lines_encode_append {line : List Char} (h : Sendable line) (more : List UInt8) :
    (Inbound.ofBytes (Utf8.encode (line ++ ['\n']) ++ more)).lines =
      String.ofList line :: (Inbound.ofBytes more).lines := by
  have hbytes : Utf8.encode (line ++ ['\n']) = Utf8.encode line ++ [0x0A] := List.flatMap_append
  have hnone : (0x0A : UInt8) ∉ Utf8.encode line := by
    intro hmem
    obtain ⟨c, hc, hb⟩ := List.mem_flatMap.1 hmem
    exact Utf8.encodeChar_newline (h.printable c hc) hb
  have hend : ∀ c ∈ line, isLineEnd c = false := by
    intro c hc
    have := h.printable c hc
    rw [isLineEnd, Bool.or_eq_false_iff]
    constructor
    · exact beq_false_of_ne fun heq => by subst heq; exact absurd this (by decide)
    · exact beq_false_of_ne fun heq => by subst heq; exact absurd this (by decide)
  have hline : lineOf (Utf8.encode line ++ [0x0A]) = line := by
    rw [lineOf, ← hbytes, Utf8.decode_encode, dropWhileEnd_newline hend]
  change ((pieces 0x0A (Utf8.encode (line ++ ['\n']) ++ more)).filterMap shownLine) = _
  rw [hbytes, List.append_assoc, List.singleton_append, pieces_stopped hnone,
    List.filterMap_cons_some (b := String.ofList line)]
  · rfl
  · rw [shownLine, hline, h.shown]
    rfl

/-- A line that can be sent is read as that line. -/
theorem lines_encode {line : List Char} (h : Sendable line) :
    (Inbound.ofBytes (Utf8.encode (line ++ ['\n']))).lines = [String.ofList line] := by
  have hlines := lines_encode_append h []
  rw [List.append_nil] at hlines
  exact hlines

/-- So are several, each with its line feed. -/
theorem lines_encode_flatMap {lines : List (List Char)} (h : ∀ line ∈ lines, Sendable line) :
    (Inbound.ofBytes (Utf8.encode (lines.flatMap (· ++ ['\n'])))).lines =
      lines.map String.ofList := by
  induction lines with
  | nil => rfl
  | cons line lines ih =>
    obtain ⟨hline, hlines⟩ := List.forall_mem_cons.1 h
    rw [List.flatMap_cons, Utf8.encode_append, lines_encode_append hline, ih hlines, List.map_cons]

/-! ### Writing -/

/-- No write fails. -/
def Outbound.Open (o : Outbound) : Prop :=
  o.limit = none ∧ o.flushFailure = none

theorem Outbound.put_open {o : Outbound} (h : o.Open) {text : String} (ht : text.isEmpty = false) :
    o.put text = (.ok (), { o with writes := o.writes ++ [text] }) := by
  unfold put
  rw [if_neg (by simp [ht]), h.1]

/-- Where no write fails, a line is written whole. -/
theorem Transport.writeLine_open {t : Transport} (h : t.outbound.Open) {line : String}
    (hl : line.isEmpty = false) :
    t.writeLine line =
      (.ok (), { t with outbound.writes := t.outbound.writes ++ [line, "\n"] }) := by
  have hput : t.outbound.putLine line =
      (.ok (), { t.outbound with writes := t.outbound.writes ++ [line, "\n"] }) := by
    have hnl : ("\n" : String).isEmpty = false := by decide
    have ho : Outbound.Open { t.outbound with writes := t.outbound.writes ++ [line] } := h
    unfold Outbound.putLine
    rw [Outbound.put_open h hl]
    dsimp only
    rw [Outbound.put_open ho hnl]
    dsimp only
    rw [h.2]
    simp
  unfold writeLine
  rw [hput]

theorem Outbound.put_limited {o : Outbound} {n : Nat} {f : String} (h : o.limit = some (n, f))
    {text : String} (ht : text.isEmpty = false) :
    o.put text = if o.writes.length < n then (.ok (), { o with writes := o.writes ++ [text] })
      else (.error (.write f), o) := by
  unfold put
  rw [if_neg (by simp [ht]), h]

/-- Where only the first `n` writes succeed, a line is written as far as they go. -/
theorem Outbound.putLine_limited {o : Outbound} {n : Nat} {f : String} (h : o.limit = some (n, f))
    (hflush : o.flushFailure = none) {line : String} (hl : line.isEmpty = false) :
    o.putLine line =
      if o.writes.length + 2 ≤ n then (.ok (), { o with writes := o.writes ++ [line, "\n"] })
      else (.error (.write f),
        { o with writes := o.writes ++ [line, "\n"].take (n - o.writes.length) }) := by
  have hnl : ("\n" : String).isEmpty = false := by decide
  have hlimit : Outbound.limit { o with writes := o.writes ++ [line] } = some (n, f) := h
  unfold putLine
  rw [put_limited h hl]
  by_cases hfirst : o.writes.length < n
  · rw [if_pos hfirst]
    dsimp only
    rw [put_limited hlimit hnl, List.length_append, List.length_singleton]
    by_cases hsecond : o.writes.length + 2 ≤ n
    · rw [if_pos hsecond, if_pos (by omega)]
      dsimp only
      rw [hflush, List.append_assoc]
      rfl
    · have hone : n - o.writes.length = 1 := by omega
      rw [if_neg hsecond, if_neg (by omega), hone]
      rfl
  · have hnone : n - o.writes.length = 0 := by omega
    rw [if_neg hfirst, if_neg (by omega), hnone, List.take_zero, List.append_nil]

/-- Writes lines one after the other, up to the first that fails. -/
def Transport.writeLines (t : Transport) :
    List String → Except TransportError Unit × Transport
  | [] => (.ok (), t)
  | line :: lines =>
    match t.writeLine line with
    | (.error e, t) => (.error e, t)
    | (.ok (), t) => t.writeLines lines

theorem Transport.writeLines_open {t : Transport} (h : t.outbound.Open) {lines : List String}
    (hl : ∀ line ∈ lines, line.isEmpty = false) :
    t.writeLines lines = (.ok (), { t with
      outbound.writes := t.outbound.writes ++ lines.flatMap fun line => [line, "\n"] }) := by
  induction lines generalizing t with
  | nil =>
    rw [writeLines, List.flatMap_nil, List.append_nil]
  | cons line lines ih =>
    obtain ⟨hline, hlines⟩ := List.forall_mem_cons.1 hl
    have hopen : Outbound.Open { t.outbound with writes := t.outbound.writes ++ [line, "\n"] } := h
    rw [writeLines, writeLine_open h hline]
    dsimp only
    rw [ih (t := ⟨t.inbound, _⟩) hopen hlines, List.flatMap_cons, ← List.append_assoc]

/-! ### From one end to the other -/

/-- Lines that are written to a stream are what is read from its bytes, and then its end. -/
def Transport.Carries (lines : List String) : Prop :=
  ∀ inbound outbound, ∃ t, Transport.writeLines ⟨inbound, {}⟩ lines = (.ok (), t) ∧
    Transport.Reads ⟨.ofBytes t.outbound.sent.toUTF8.data.toList, outbound⟩ lines

/-- Lines that can be sent arrive as they are, however many there are. -/
theorem Transport.carries_lines {lines : List (List Char)} (h : ∀ line ∈ lines, Sendable line) :
    Transport.Carries (lines.map String.ofList) := by
  intro inbound outbound
  have hne : ∀ line ∈ lines.map String.ofList, line.isEmpty = false := by
    intro line hline
    obtain ⟨cs, hcs, rfl⟩ := List.mem_map.1 hline
    exact (h cs hcs).isEmpty
  have hopen : Outbound.Open {} := ⟨rfl, rfl⟩
  refine ⟨_, writeLines_open (t := ⟨inbound, {}⟩) hopen hne, ?_⟩
  have hsent : String.join ([] ++ (lines.map String.ofList).flatMap fun line => [line, "\n"]) =
      String.ofList (lines.flatMap (· ++ ['\n'])) := by
    rw [← String.toList_inj, String.toList_join, String.toList_ofList, List.nil_append,
      List.flatMap_map, List.flatMap_assoc]
    simp
  have hreads := reads_lines (t := ⟨.ofBytes (Utf8.encode (lines.flatMap (· ++ ['\n']))),
    outbound⟩) rfl
  rw [lines_encode_flatMap h] at hreads
  rw [Outbound.sent, hsent, Utf8.toUTF8_ofList]
  exact hreads

end LuaSession.Stream
