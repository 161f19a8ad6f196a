import LuaSession.Proofs.Json.RoundTrip
import LuaSession.Search.Embedded

/-!
# A structure is found among other words

The written form of an object or array begins and ends with delimiters of its own kind. If these
stand nowhere around it, the span from the first of them to the last is the written form, whatever
stands in its strings. The span of the other kind is read instead only if it is as long and JSON.

* `delimited_spans`, `delimited_cases`: spans by offsets are spans by characters.
* `chars_spans`: the written form of a structure is a span.
* `Delimiters.Spans.byteLength_lt`: the span of the other kind is inside, with no delimiters around.
* `parse_of_embeddedJson`: whatever is found is read from a span.
* `embeddedJson_finds`: the structure itself is found.
-/

namespace LuaSession.Search

open LuaSession.Text

/-! ### Spans -/

/-- A pair of delimiters. -/
structure Delimiters where
  opening : Char
  closing : Char
  differ : opening ≠ closing

/-- The delimiters of objects. -/
def braces : Delimiters := ⟨'\x7b', '\x7d', by decide⟩

/-- The delimiters of arrays. -/
def brackets : Delimiters := ⟨'[', ']', by decide⟩

variable {d : Delimiters} {s span : List Char}

/-- Neither delimiter stands in the text. -/
def Delimiters.Absent (d : Delimiters) (s : List Char) : Prop :=
  d.opening ∉ s ∧ d.closing ∉ s

instance (d : Delimiters) (s : List Char) : Decidable (d.Absent s) :=
  inferInstanceAs (Decidable (_ ∧ _))

/-- The part of a text from the first opening delimiter to the last closing one. -/
def Delimiters.Spans (d : Delimiters) (s span : List Char) : Prop :=
  ∃ before inside after, s = before ++ (span ++ after) ∧
    span = d.opening :: (inside ++ [d.closing]) ∧ d.opening ∉ before ∧ d.closing ∉ after

/-- The span of a text is cut out of it. -/
theorem delimited_spans (h : d.Spans s span) :
    delimited d.opening d.closing s = .ok (some span) := by
  obtain ⟨before, inside, after, rfl, rfl, hbefore, hafter⟩ := h
  have hfind : find? d.opening (before ++ (d.opening :: (inside ++ [d.closing]) ++ after)) =
      some (byteLength before) := find?_append hbefore _
  have hrfind : rfind? d.closing (before ++ (d.opening :: (inside ++ [d.closing]) ++ after)) =
      some (byteLength (before ++ d.opening :: inside)) := by
    have hsplit : before ++ (d.opening :: (inside ++ [d.closing]) ++ after) =
        (before ++ d.opening :: inside) ++ d.closing :: after := by simp
    rw [hsplit, rfind?_append hafter]
  have hpos := d.opening.utf8Size_pos
  have hlt : byteLength before < byteLength (before ++ d.opening :: inside) := by
    rw [byteLength_append, byteLength_cons]
    omega
  have hstop : byteLength (before ++ d.opening :: inside) + d.closing.utf8Size =
      byteLength before + byteLength (d.opening :: (inside ++ [d.closing])) := by
    simp only [byteLength_append, byteLength_cons, byteLength_nil]
    omega
  simp only [delimited, hfind, hrfind, if_pos hlt, hstop, slice_append, Except.map]

/-- A character of a text stands somewhere last. -/
theorem exists_last {c : Char} (h : c ∈ s) :
    ∃ before after, s = before ++ c :: after ∧ c ∉ after := by
  obtain ⟨after, before, hs, hafter⟩ := List.eq_append_cons_of_mem (List.mem_reverse.2 h)
  refine ⟨before.reverse, after.reverse, ?_, fun hc => hafter (List.mem_reverse.1 hc)⟩
  rw [← List.reverse_reverse s, hs]
  simp

/-- A text has a span or none, and no slice breaks a character. -/
theorem delimited_cases (d : Delimiters) (s : List Char) :
    delimited d.opening d.closing s = .ok none ∨ ∃ span, d.Spans s span := by
  by_cases hopening : d.opening ∈ s
  · by_cases hclosing : d.closing ∈ s
    · obtain ⟨before, r, hs, hbefore⟩ := List.eq_append_cons_of_mem hopening
      obtain ⟨b, after, hs', hafter⟩ := exists_last hclosing
      rcases List.append_eq_append_iff.1 (hs.symm.trans hs') with ⟨x, hb, hx⟩ | ⟨x, hb, hx⟩
      · cases x with
        | nil => exact absurd (List.cons.inj hx).1 d.differ
        | cons c inside =>
          obtain ⟨rfl, rfl⟩ := List.cons.inj hx
          exact .inr ⟨_, before, inside, after, by simp [hs], rfl, hbefore, hafter⟩
      · have hfind : find? d.opening s = some (byteLength before) := hs ▸ find?_append hbefore r
        have hrfind : rfind? d.closing s = some (byteLength b) := hs' ▸ rfind?_append hafter b
        have hle : ¬byteLength before < byteLength b := by
          rw [hb, byteLength_append]
          exact Nat.not_lt.2 (Nat.le_add_right _ _)
        simp only [delimited, hfind, hrfind, if_neg hle, true_or]
    · rw [delimited, rfind?_of_notMem hclosing]
      cases find? d.opening s <;> exact .inl rfl
  · simp only [delimited, find?_of_notMem hopening, true_or]

/-- What is cut out of a text is its span. -/
theorem Delimiters.spans_of_delimited (h : delimited d.opening d.closing s = .ok (some span)) :
    d.Spans s span := by
  obtain hnone | ⟨span', hspans⟩ := delimited_cases d s
  · cases hnone.symm.trans h
  · cases (delimited_spans hspans).symm.trans h
    exact hspans

/-- A span is no longer than the text. -/
theorem Delimiters.Spans.length_le (h : d.Spans s span) : span.length ≤ s.length := by
  obtain ⟨before, _, after, rfl, -⟩ := h
  simp only [List.length_append]
  omega

/-! ### Written forms -/

theorem itemChars_last (first : Bool) (items : List Json) :
    ∃ inside, Json.itemChars first items = inside ++ [']'] := by
  induction items generalizing first with
  | nil => exact ⟨[], rfl⟩
  | cons v items ih =>
    obtain ⟨inside, hinside⟩ := ih false
    rw [Json.itemChars, hinside, ← List.append_assoc, ← List.append_assoc]
    exact ⟨_, rfl⟩

theorem fieldChars_last (first : Bool) (fields : List (String × Json)) :
    ∃ inside, Json.fieldChars first fields = inside ++ ['\x7d'] := by
  induction fields generalizing first with
  | nil => exact ⟨[], rfl⟩
  | cons f fields ih =>
    obtain ⟨k, v⟩ := f
    obtain ⟨inside, hinside⟩ := ih false
    rw [Json.fieldChars, hinside]
    exact ⟨(if first then [] else [',']) ++ (Json.quote k.toList ++ ':' :: (v.chars ++ inside)),
      by simp⟩

/-- The delimiters of a structure, and those of the other kind. -/
def delimitersOf : Json → Option (Delimiters × Delimiters)
  | .obj _ => some (braces, brackets)
  | .arr _ => some (brackets, braces)
  | _ => none

variable {v : Json} {own other : Delimiters}

/-- A structure is written between its delimiters. -/
theorem chars_delimited (kind : delimitersOf v = some (own, other)) :
    ∃ inside, v.chars = own.opening :: (inside ++ [own.closing]) := by
  cases v with
  | arr items =>
    obtain ⟨inside, hinside⟩ := itemChars_last true items
    cases kind
    exact ⟨inside, by rw [Json.chars, hinside]; rfl⟩
  | obj fields =>
    obtain ⟨inside, hinside⟩ := fieldChars_last true fields
    cases kind
    exact ⟨inside, by rw [Json.chars, hinside]; rfl⟩
  | _ => exact nomatch kind

/-- The kinds begin with different characters. -/
theorem kinds_differ (kind : delimitersOf v = some (own, other)) : own.opening ≠ other.opening := by
  cases v with
  | arr | obj => cases kind; decide
  | _ => exact nomatch kind

variable {p : List Char}

/-- Without its delimiters around it, the written form of a structure is a span. -/
theorem chars_spans (kind : delimitersOf v = some (own, other)) (hp : own.Absent p)
    (hs : own.Absent s) : own.Spans (p ++ (v.chars ++ s)) v.chars := by
  obtain ⟨inside, hinside⟩ := chars_delimited kind
  exact ⟨p, inside, s, rfl, hinside, hp.1, hs.2⟩

/-- A character that a text lacks stands behind all of it. -/
theorem behind_of_notMem {c : Char} {p t before r : List Char} (hp : c ∉ p)
    (h : p ++ t = before ++ c :: r) : ∃ x, before = p ++ x ∧ t = x ++ c :: r := by
  rcases List.append_eq_append_iff.1 h with hx | ⟨x, rfl, hx⟩
  · exact hx
  · cases x with
    | nil => exact ⟨[], by simp, hx.symm⟩
    | cons a x =>
      rw [(List.cons.inj hx).1] at hp
      exact absurd (by simp) hp

/-- A character that a text lacks stands in front of all of it. -/
theorem before_of_notMem {c : Char} {s t r after : List Char} (hs : c ∉ s)
    (h : t ++ s = r ++ c :: after) : ∃ x, after = x ++ s ∧ t = r ++ c :: x := by
  rcases List.append_eq_append_iff.1 h with ⟨x, rfl, rfl⟩ | ⟨x, rfl, hx⟩
  · exact absurd (by simp) hs
  · cases x with
    | nil =>
      rw [← List.nil_append s, ← hx] at hs
      exact absurd List.mem_cons_self hs
    | cons a x =>
      obtain ⟨rfl, rfl⟩ := List.cons.inj hx
      exact ⟨x, rfl, rfl⟩

/-- Without any delimiters around a structure, the span of the other kind is a part of its written
form, and not all of it. -/
theorem Delimiters.Spans.byteLength_lt (kind : delimitersOf v = some (own, other))
    (hp : other.Absent p) (hs : other.Absent s) (h : other.Spans (p ++ (v.chars ++ s)) span) :
    byteLength span < byteLength v.chars := by
  obtain ⟨before, inside, after, heq, rfl, -, -⟩ := h
  obtain ⟨x, -, hx⟩ := behind_of_notMem hp.1 heq
  have hsplit : v.chars ++ s = (x ++ other.opening :: inside) ++ other.closing :: after := by
    rw [hx]
    simp
  obtain ⟨y, -, hy⟩ := before_of_notMem hs.2 hsplit
  have hx0 : x ≠ [] := by
    rintro rfl
    obtain ⟨rest, hrest⟩ := chars_delimited kind
    rw [hrest] at hy
    exact kinds_differ kind (List.cons.inj hy).1
  have hpos := Nat.lt_of_lt_of_le (List.length_pos_iff.2 hx0) (length_le_byteLength x)
  rw [hy]
  simp only [byteLength_append, byteLength_cons, byteLength_nil]
  omega

/-! ### What is read -/

variable {t : List Char}

/-- A structure of one kind alone is the only candidate. -/
theorem candidates_single (kind : delimitersOf v = some (own, other))
    (hown : delimited own.opening own.closing t = .ok (some span))
    (hother : delimited other.opening other.closing t = .ok none) : candidates t = .ok [span] := by
  cases v with
  | arr | obj =>
    cases kind
    simp only [braces, brackets] at hown hother
    simp only [candidates, hown, hother, bind, Except.bind, pure, Except.pure]
  | _ => exact nomatch kind

/-- Of two candidates, a shorter one of the other kind is read last. -/
theorem candidates_both {spare : List Char} (kind : delimitersOf v = some (own, other))
    (hown : delimited own.opening own.closing t = .ok (some span))
    (hother : delimited other.opening other.closing t = .ok (some spare)) :
    candidates t = .ok [span, spare] ∨
      candidates t = .ok [spare, span] ∧ byteLength span ≤ byteLength spare := by
  cases v with
  | arr | obj =>
    cases kind
    simp only [braces, brackets] at hown hother
    simp only [candidates, hown, hother, bind, Except.bind, pure, Except.pure]
    grind
  | _ => exact nomatch kind

/-- A structure is read unless the span of the other kind is read before. -/
theorem embeddedOrTrap_spans (kind : delimitersOf v = some (own, other))
    (parses : Json.parse v.chars = .ok v) (hown : own.Spans t v.chars)
    (hother : ∀ span, other.Spans t span →
      byteLength span < byteLength v.chars ∨ ∀ w, Json.parse span ≠ .ok w) :
    embeddedOrTrap t = .ok (some v) := by
  have hread : jsonOf? v.chars = some v := by rw [jsonOf?, parses]
  have hfirst := delimited_spans hown
  rcases delimited_cases other t with hnone | ⟨spare, hspare⟩
  · rw [embeddedOrTrap, candidates_single kind hfirst hnone]
    simp [Except.map, hread]
  · rcases candidates_both kind hfirst (delimited_spans hspare) with hc | ⟨hc, hle⟩
    · rw [embeddedOrTrap, hc]
      simp [Except.map, hread]
    · have hnot : jsonOf? spare = none := by
        rcases hother spare hspare with hlt | hbad
        · exact absurd hlt (Nat.not_lt.2 hle)
        · cases h : Json.parse spare with
          | ok w => exact absurd h (hbad w)
          | error => rw [jsonOf?, h]
      rw [embeddedOrTrap, hc]
      simp [Except.map, hnot, hread]

/-- The candidates are spans of the text. -/
theorem spans_of_mem_candidates {spans : List (List Char)} (h : candidates t = .ok spans)
    (hmem : span ∈ spans) : braces.Spans t span ∨ brackets.Spans t span := by
  unfold candidates at h
  rcases hbraced : delimited '\x7b' '\x7d' t with e | braced
  · rw [hbraced] at h
    cases h
  rcases hbracketed : delimited '[' ']' t with e | bracketed
  · rw [hbraced, hbracketed] at h
    cases h
  rw [hbraced, hbracketed] at h
  have hcut : braced = some span ∨ bracketed = some span := by
    cases h
    rcases braced with _ | a
    all_goals rcases bracketed with _ | b
    all_goals grind
  rcases hcut with rfl | rfl
  · exact .inl (Delimiters.spans_of_delimited hbraced)
  · exact .inr (Delimiters.spans_of_delimited hbracketed)

/-- What is found in a text is read from a span of it. -/
theorem parse_of_embeddedJson (h : embeddedJson t = some v) :
    ∃ span, (braces.Spans t span ∨ brackets.Spans t span) ∧ Json.parse span = .ok v := by
  unfold embeddedJson embeddedOrTrap at h
  rcases hspans : candidates t with e | spans
  · rw [hspans] at h
    cases h
  · rw [hspans] at h
    obtain ⟨span, hmem, hread⟩ := List.exists_of_findSome?_eq_some h
    unfold jsonOf? at hread
    split at hread
    · cases hread
      exact ⟨span, spans_of_mem_candidates hspans hmem, ‹_›⟩
    · cases hread

theorem embeddedJson_canonical (h : embeddedJson t = some v) (ht : t.length < 0x8000000000000000) :
    v.Canonical := by
  obtain ⟨span, hspans, hparse⟩ := parse_of_embeddedJson h
  have hle : span.length ≤ t.length := hspans.elim (·.length_le) (·.length_le)
  exact Json.parse_canonical hparse (Nat.lt_of_le_of_lt hle ht)

/-- **A structure is found among other words.** The object or array itself is read from a text that
holds its written form, if its delimiters stand nowhere around it and those of the other kind do not
either, or bound a span that is shorter or no JSON. -/
theorem embeddedJson_finds {v : Json} {own other : Delimiters}
    (kind : delimitersOf v = some (own, other)) (exact : v.Exact)
    (shallow : v.depth ≤ Json.maxDepth) {p s : List Char} (hp : own.Absent p) (hs : own.Absent s)
    (hother : other.Absent p ∧ other.Absent s ∨ ∀ span, other.Spans (p ++ (v.chars ++ s)) span →
      byteLength span < byteLength v.chars ∨ ∀ w, Json.parse span ≠ .ok w) :
    embeddedJson (p ++ (v.chars ++ s)) = some v := by
  have hspans : ∀ span, other.Spans (p ++ (v.chars ++ s)) span →
      byteLength span < byteLength v.chars ∨ ∀ w, Json.parse span ≠ .ok w := by
    rcases hother with ⟨hp', hs'⟩ | h
    · exact fun span hspan => .inl (hspan.byteLength_lt kind hp' hs')
    · exact h
  rw [embeddedJson, embeddedOrTrap_spans kind (Json.parse_chars exact shallow)
    (chars_spans kind hp hs) hspans]
  rfl

/-- An object with delimiters and quotes in its texts. -/
def sampleObject : Json :=
  .obj [("\"\x7d", .arr [.str "[\x7b", .int (-1)]), ("é", .str "]\\")]

/-- It is found behind brackets that bound no JSON, and then without them. -/
theorem embeddedJson_finds_object :
    embeddedJson ("voilà [é: ".toList ++ (sampleObject.chars ++ " ].".toList)) = some sampleObject ∧
      embeddedJson ("voilà ".toList ++ (sampleObject.chars ++ [])) = some sampleObject := by
  have exact : sampleObject.Exact := ⟨by decide, ⟨trivial, ⟨by decide, by decide⟩, trivial⟩,
    trivial, trivial⟩
  refine ⟨embeddedJson_finds rfl exact (by decide) (by decide) (by decide) (.inr ?_),
    embeddedJson_finds rfl exact (by decide) (by decide) (by decide) (.inl (by decide))⟩
  intro span hspan
  have hspare : delimited brackets.opening brackets.closing
      ("voilà [é: ".toList ++ (sampleObject.chars ++ " ].".toList)) =
      .ok (some ("[é: ".toList ++ (sampleObject.chars ++ " ]".toList))) := rfl
  obtain ⟨e, hrefused⟩ : ∃ e, Json.parse ("[é: ".toList ++ (sampleObject.chars ++ " ]".toList)) =
      .error e := ⟨_, rfl⟩
  cases hspare.symm.trans (delimited_spans hspan)
  exact .inr fun w hw => nomatch hrefused.symm.trans hw

end LuaSession.Search
