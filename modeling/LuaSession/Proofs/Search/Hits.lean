import LuaSession.Proofs.Search.Matches

/-!
# Hits tell where matches stand

Matches are offsets in bytes, and hits count characters. The cursor in front of a match counts all
characters before it, because matches come in order; the two ends of a context are places between
characters, because matches are.

* `hitsFrom_inBytes`: the hits of matches in order, in characters.
* `hits_describe`: what hits, their number and a quote say of a text, and that no slice breaks a
  character.
* `quote_reads_notFound`: a quote can read like the words for no match.
-/

namespace LuaSession.Search

open LuaSession.Text

variable {s : List Char} {j : Nat} {m : Nat × Nat} {ms : List (Nat × Nat)}

/-! ### One match -/

/-- The hit of the characters from `m.1` to `m.2`. -/
def Hit.of (s : List Char) (window : Nat) (m : Nat × Nat) : Hit where
  matched := s.extract m.1 m.2
  context := s.extract (m.1 - window) (min s.length (m.2 + window))
  start := m.1
  stop := m.2

/-- A match behind the cursor has the hit of its characters. -/
theorem hitAt_inBytes (window : Nat) (hlow : j ≤ m.1) (hle : m.1 ≤ m.2) (hhigh : m.2 ≤ s.length) :
    hitAt s window (.at s j) (inBytes s m) = .ok (.of s window m, .at s m.2) := by
  have hstart : m.1 ≤ s.length := Nat.le_trans hle hhigh
  simp only [hitAt, inBytes_fst, inBytes_snd, back_offset s hstart, forward_offset,
    Cursor.advance_offset s hlow hstart, Cursor.advance_offset s hle hhigh, slice_offset s hle,
    bind, Except.bind]
  rw [slice_offset s (by omega)]
  rfl

/-- Matches in order behind the cursor have the hits of their characters. -/
theorem hitsFrom_inBytes (window : Nat) (h : Pattern.InOrder s.length j ms) :
    hitsFrom s window (.at s j) (ms.map (inBytes s)) = .ok (ms.map (.of s window)) := by
  induction h with
  | nil _ => rfl
  | cons hlow hle h ih =>
    rw [List.map_cons, hitsFrom, hitAt_inBytes window hlow hle h.le]
    simp only [bind, Except.bind, ih]
    rfl

theorem hitsOf_inBytes (window limit : Nat) (h : Pattern.InOrder s.length 0 ms) :
    hitsOf s window limit (ms.map (inBytes s)) = .ok ((ms.take limit).map (.of s window)) := by
  rw [hitsOf, ← List.map_take, ← Cursor.at_zero s]
  exact hitsFrom_inBytes window (h.sublist (List.take_sublist limit ms))

/-! ### Searches -/

/-- What a hit says of a text that was searched with a window. -/
structure Hit.Describes (s : List Char) (window : Nat) (h : Hit) : Prop where
  start_le_stop : h.start ≤ h.stop
  stop_le_length : h.stop ≤ s.length
  matched_eq : h.matched = s.extract h.start h.stop
  context_eq : h.context = s.extract (h.start - window) (min s.length (h.stop + window))

theorem Hit.describes_of (window : Nat) (hle : m.1 ≤ m.2) (hhigh : m.2 ≤ s.length) :
    (Hit.of s window m).Describes s window :=
  ⟨hle, hhigh, rfl, rfl⟩

/-- A match cut to a length, with dots where something is cut off. -/
def shortened (limit : Nat) (q : List Char) : List Char :=
  if q.length ≤ limit then q else q.take limit ++ "...".toList

/-- A text that is cut ends in a dot, so it reads like the words for no match only if it is them. -/
theorem shortened_eq_notFound_iff {limit : Nat} {q : List Char} :
    shortened limit q = notFound ↔ q = notFound ∧ notFound.length ≤ limit := by
  unfold shortened
  constructor
  · intro h
    split at h
    · next hle => exact ⟨h, h ▸ hle⟩
    · have hdot : "...".toList.getLast? = some '.' := rfl
      have hwords : notFound.getLast? = some 'd' := rfl
      have hlast := congrArg List.getLast? h
      rw [List.getLast?_append, hdot, hwords, Option.some_or] at hlast
      exact absurd hlast (by decide)
  · rintro ⟨rfl, hle⟩
    exact if_pos hle

section

variable {pattern : List Char} {p : Pattern.Program}

theorem count_eq (compiles : Pattern.compile pattern false = .ok p) (s : List Char) :
    count s pattern = .ok (Pattern.allMatches p s.toArray).length := by
  rw [count, compiles, Except.map, spans, List.length_map]

theorem hitsOrTrap_eq (compiles : Pattern.compile pattern false = .ok p) (s : List Char)
    (window limit : Nat) : hitsOrTrap s pattern window limit =
      .ok (.ok (((Pattern.allMatches p s.toArray).take limit).map (.of s window))) := by
  rw [hitsOrTrap, compiles, Except.map, spans, hitsOf_inBytes window limit (spans_inOrder p s)]

theorem hits_eq (compiles : Pattern.compile pattern false = .ok p) (s : List Char)
    (window limit : Nat) : hits s pattern window limit =
      .ok (((Pattern.allMatches p s.toArray).take limit).map (.of s window)) := by
  rw [hits, hitsOrTrap_eq compiles]
  rfl

/-- A quote is made of the first match. -/
theorem quoteOrTrap_eq (compiles : Pattern.compile pattern false = .ok p) (s : List Char)
    (limit : Nat) : quoteOrTrap s pattern limit =
      .ok (.ok (match Pattern.allMatches p s.toArray with
        | [] => notFound
        | m :: _ => shortened limit (s.extract m.1 m.2))) := by
  have hall := spans_inOrder p s
  rw [quoteOrTrap, compiles, Except.map, firstSpan_eq]
  cases hms : Pattern.allMatches p s.toArray with
  | nil => rfl
  | cons m ms =>
    rw [hms] at hall
    have hle := (hall.bounds_of_mem m List.mem_cons_self).2.1
    rw [List.head?_cons, Option.map_some, quoteOf, inBytes_fst, inBytes_snd, slice_offset s hle]
    rfl

/-- A search gives a hit for each of the first matches of a pattern, their number is the number of
matches, and the first of them is quoted. No slice breaks a character. -/
theorem hits_describe (compiles : Pattern.compile pattern false = .ok p) (s : List Char) :
    ∃ total, count s pattern = .ok total ∧ total = (Pattern.allMatches p s.toArray).length ∧
      (∀ window limit, ∃ hs, hitsOrTrap s pattern window limit = .ok (.ok hs) ∧
        hits s pattern window limit = .ok hs ∧ hs.length = min limit total ∧
        hs.map (fun h => (h.start, h.stop)) = (Pattern.allMatches p s.toArray).take limit ∧
        (∀ h ∈ hs, h.Describes s window) ∧ hs.Pairwise (fun g h => g.stop ≤ h.start) ∧
        (∀ more ≥ limit, ∃ rest, hits s pattern window more = .ok (hs ++ rest)) ∧
        ∀ other, hits s pattern other limit = .ok (hs.map fun h => { h with
          context := s.extract (h.start - other) (min s.length (h.stop + other)) })) ∧
      ∀ limit, ∃ q, quoteOrTrap s pattern limit = .ok (.ok q) ∧ quote s pattern limit = .ok q ∧
        (total = 0 → q = notFound) ∧
        ∀ window many h hs, hits s pattern window many = .ok (h :: hs) →
          q = (if h.matched.length ≤ limit then h.matched
            else h.matched.take limit ++ "...".toList) ∧
          (q = notFound ↔ h.matched = notFound ∧ notFound.length ≤ limit) := by
  have hall := spans_inOrder p s
  refine ⟨_, count_eq compiles s, rfl, fun window limit => ?_, fun limit => ?_⟩
  · have hfirst := hall.sublist (List.take_sublist limit _)
    refine ⟨_, hitsOrTrap_eq compiles s window limit, hits_eq compiles s window limit,
      by rw [List.length_map, List.length_take], ?_, ?_, ?_, fun more hmore => ?_, fun other => ?_⟩
    · rw [List.map_map]
      exact List.map_id _
    · intro h hh
      obtain ⟨m, hm, rfl⟩ := List.mem_map.1 hh
      have hbounds := hfirst.bounds_of_mem m hm
      exact Hit.describes_of window hbounds.2.1 hbounds.2.2
    · exact List.pairwise_map.2 hfirst.pairwise
    · obtain ⟨d, rfl⟩ := Nat.le.dest hmore
      rw [hits_eq compiles, List.take_add, List.map_append]
      exact ⟨_, rfl⟩
    · rw [hits_eq compiles, List.map_map]
      rfl
  · refine ⟨_, quoteOrTrap_eq compiles s limit, by rw [quote, quoteOrTrap_eq compiles]; rfl,
      fun hzero => by rw [List.eq_nil_of_length_eq_zero hzero], fun window many h hs hhits => ?_⟩
    rw [hits_eq compiles] at hhits
    cases hms : Pattern.allMatches p s.toArray with
    | nil =>
      rw [hms, List.take_nil] at hhits
      exact nomatch hhits
    | cons m ms =>
      rw [hms] at hhits
      cases many with
      | zero => exact nomatch hhits
      | succ many =>
        obtain ⟨rfl, -⟩ := List.cons.inj (Except.ok.inj hhits)
        exact ⟨rfl, shortened_eq_notFound_iff⟩

end

/-- Two lines with characters of one, two and four bytes, each of which matches once. -/
theorem hits_describe_lines : ∃ p, Pattern.compile ".+".toList false = .ok p ∧
    count "aé\n😀b".toList ".+".toList = .ok 2 ∧ ∃ hs,
      hitsOrTrap "aé\n😀b".toList ".+".toList 1 5 = .ok (.ok hs) ∧ hs.length = 2 ∧
      ∀ h ∈ hs, h.Describes "aé\n😀b".toList 1 := by
  obtain ⟨p, compiles⟩ : ∃ p, Pattern.compile ".+".toList false = .ok p := ⟨_, rfl⟩
  have htwo : count "aé\n😀b".toList ".+".toList = .ok 2 := rfl
  obtain ⟨total, hcount, -, hhits, -⟩ := hits_describe compiles "aé\n😀b".toList
  obtain ⟨hs, hok, -, hlength, -, hdescribe, -⟩ := hhits 1 5
  obtain rfl : 2 = total := Except.ok.inj (htwo.symm.trans hcount)
  exact ⟨p, compiles, hcount, hs, hok, hlength, hdescribe⟩

/-- A quote that reads like the words for no match, although there is one. -/
theorem quote_reads_notFound :
    ¬(quote "not found".toList ".+".toList 100 = .ok notFound ↔
      count "not found".toList ".+".toList = .ok 0) := by
  have hquote : quote "not found".toList ".+".toList 100 = .ok notFound := rfl
  have hone : count "not found".toList ".+".toList = .ok 1 := rfl
  intro h
  exact absurd (Except.ok.inj (hone.symm.trans (h.1 hquote))) (by decide)

end LuaSession.Search
