import LuaSession.Proofs.Config.Layers

/-!
# What a document says

Which keys of a document are settings, said by looking the keys up and without the readers. A key that
stands there several times counts the last time; all other keys are passed over.

* `Given.ofDocument_says`: what a document says about each setting.
-/

namespace LuaSession

namespace Toml.Node

/-- The truth value that a node is. -/
def truth? : Node → Option Bool
  | .boolean b _ => some b
  | _ => none

/-- The text that a node is. -/
def text? : Node → Option String
  | .string s _ => some s
  | _ => none

/-- What stands in a table, by names. An array has its items in the order of the names. -/
def named (names : List String) : Node → List (String × Node)
  | .table fields _ _ => fields.map fun f => (f.1.name, f.2)
  | .array items _ | .tables items _ => names.zip items
  | _ => []

end Toml.Node

namespace Config

open LuaSession.Toml

/-- What stands under a name. -/
def under (key : String) (members : List (String × Node)) : List Node :=
  (members.filter (·.1 = key)).map (·.2)

/-! ### One setting -/

section

variable {α β γ ε : Type} {view : α → Option β} {values : Node → List β} {key name expected : String}
  {reader : SettingReader α} {readers : List (String × SettingReader α)} {s s' : α}

/-- A reader does this to one setting: the last of the values that a node has for it counts, and
without any the setting stays. -/
def Shows (view : α → Option β) (values : Node → List β) (reader : SettingReader α) : Prop :=
  ∀ place n s s', reader place n s = .ok s' → view s' = (values n).getLast?.or (view s)

/-- A reader leaves the setting. -/
def Spares (view : α → Option β) (reader : SettingReader α) : Prop :=
  Shows view (fun _ => []) reader

/-- Of several readers the one under a name shows the setting, and the others leave it. Without one no
values are looked for. -/
inductive Shown (view : α → Option β) (key : String) (values : Node → List β) :
    List (String × SettingReader α) → Prop
  | none {readers : List (String × SettingReader α)} : (values = fun _ => []) →
      (∀ e ∈ readers, Spares view e.2) → Shown view key values readers
  | here {reader : SettingReader α} {readers : List (String × SettingReader α)} :
      Shows view values reader → (∀ e ∈ readers, e.1 ≠ key) → (∀ e ∈ readers, Spares view e.2) →
      Shown view key values ((key, reader) :: readers)
  | there {name : String} {reader : SettingReader α} {readers : List (String × SettingReader α)} :
      name ≠ key → Spares view reader → Shown view key values readers →
      Shown view key values ((name, reader) :: readers)

theorem truth_ok {set : Bool → α → α} {place : Span} {n : Node}
    (h : truth set place n s = .ok s') : ∃ b, n.truth? = some b ∧ s' = set b s := by
  cases n with
  | boolean b _ => exact ⟨b, rfl, (Except.ok.inj h).symm⟩
  | _ => cases h

theorem text_ok {set : String → α → α} {place : Span} {n : Node}
    (h : text expected set place n s = .ok s') : ∃ t, n.text? = some t ∧ s' = set t s := by
  cases n with
  | string t _ => exact ⟨t, rfl, (Except.ok.inj h).symm⟩
  | _ => cases h

theorem Shows.truth {set : Bool → α → α} {view : α → Option Bool}
    (h : ∀ b s, view (set b s) = some b) : Shows view (·.truth?.toList) (truth set) := by
  intro place n s s' hs
  obtain ⟨b, hb, rfl⟩ := truth_ok hs
  dsimp only
  rw [hb, h]
  rfl

theorem Shows.text {set : String → α → α} {view : α → Option String}
    (h : ∀ t s, view (set t s) = some t) : Shows view (·.text?.toList) (text expected set) := by
  intro place n s s' hs
  obtain ⟨t, ht, rfl⟩ := text_ok hs
  dsimp only
  rw [ht, h]
  rfl

theorem Spares.truth {set : Bool → α → α} (h : ∀ b s, view (set b s) = view s) :
    Spares view (truth set) := by
  intro place n s s' hs
  obtain ⟨b, -, rfl⟩ := truth_ok hs
  exact h b s

theorem Spares.text {set : String → α → α} (h : ∀ t s, view (set t s) = view s) :
    Spares view (text expected set) := by
  intro place n s s' hs
  obtain ⟨t, -, rfl⟩ := text_ok hs
  exact h t s

/-! ### Several readers -/

/-- What one of the readers shows. -/
theorem Shown.of_mem (h : Shown view key values readers) {e : String × SettingReader α}
    (he : e ∈ readers) : Shows view (if e.1 = key then values else fun _ => []) e.2 := by
  induction h with
  | none hvalues hspares =>
    rw [hvalues, ite_self]
    exact hspares e he
  | here hshows hnames hspares =>
    obtain rfl | he := List.mem_cons.1 he
    · rw [if_pos rfl]
      exact hshows
    · rw [if_neg (hnames e he)]
      exact hspares e he
  | there hname hspares _ ih =>
    obtain rfl | he := List.mem_cons.1 he
    · rw [if_neg hname]
      exact hspares
    · exact ih he

/-- Where there is no reader nothing is shown. -/
theorem Shown.of_lookup (h : Shown view key values readers)
    (hlookup : readers.lookup name = .none) :
    (if name = key then values else fun _ => []) = fun _ => [] := by
  induction h with
  | none hvalues => rw [hvalues, ite_self]
  | here =>
    refine if_neg ?_
    rintro rfl
    rw [List.lookup_cons_self] at hlookup
    cases hlookup
  | @there other _ _ hne _ _ ih =>
    rw [List.lookup_cons] at hlookup
    cases hb : name == other with
    | true =>
      rw [hb] at hlookup
      cases hlookup
    | false =>
      rw [hb] at hlookup
      exact ih hlookup

/-- Over several steps the last value counts. -/
theorem foldlM_shows {step : α → γ → Except ε α} {found : γ → List β} {cs : List γ}
    (h : ∀ c ∈ cs, ∀ s s', step s c = .ok s' → view s' = (found c).getLast?.or (view s))
    (hs : cs.foldlM step s = .ok s') : view s' = (cs.flatMap found).getLast?.or (view s) := by
  induction cs generalizing s with
  | nil =>
    cases hs
    rfl
  | cons c cs ih =>
    obtain ⟨hc, hcs⟩ := List.forall_mem_cons.1 h
    rw [List.foldlM_cons] at hs
    rcases hstep : step s c with e | t
    · rw [hstep] at hs
      cases hs
    · rw [hstep] at hs
      rw [ih hcs hs, hc s t hstep, List.flatMap_cons, List.getLast?_append, Option.or_assoc]

theorem flatMap_under (members : List (String × Node)) :
    (under key members).flatMap values =
      members.flatMap fun m => (if m.1 = key then values else fun _ => []) m.2 := by
  induction members with
  | nil => rfl
  | cons m members ih =>
    rw [List.flatMap_cons, ← ih]
    by_cases hm : m.1 = key
    · simp [under, hm]
    · simp [under, hm]

theorem named_shows (h : Shown view key values readers) {fields : List (Key × Node)}
    (hs : named readers fields s = .ok s') :
    view s' = ((under key (fields.map fun f => (f.1.name, f.2))).flatMap values).getLast?.or
      (view s) := by
  rw [flatMap_under, List.flatMap_map]
  refine foldlM_shows (fun f _ s s' hf => ?_) hs
  rcases hr : readers.lookup f.1.name with _ | r
  · simp only [hr] at hf
    cases hf
    rw [h.of_lookup hr]
    rfl
  · simp only [hr] at hf
    obtain ⟨before, after, hsplit, -⟩ := List.lookup_eq_some_iff.1 hr
    have hmem : (f.1.name, r) ∈ readers := by
      rw [hsplit]
      exact List.mem_append_right _ List.mem_cons_self
    exact h.of_mem hmem _ _ _ _ hf

/-- A section shows what stands in it under the name. -/
theorem Shown.section (h : Shown view key values readers) :
    Shows view (fun n => (under key (n.named (readers.map (·.1)))).flatMap values)
      (section_ expected readers) := by
  have hitems {place : Span} {items : List Node} {s s' : α}
      (hs : (readers.zip items).foldlM (fun s (r : (String × SettingReader α) × Node) =>
        r.1.2 (r.2.span?.getD place) r.2 s) s = .ok s') :
      view s' = ((under key ((readers.map (·.1)).zip items)).flatMap values).getLast?.or
        (view s) := by
    rw [flatMap_under, List.zip_map_left, List.flatMap_map]
    exact foldlM_shows (fun r hr s s' => h.of_mem (List.of_mem_zip hr).1 _ _ _ _) hs
  intro place n s s' hs
  cases n with
  | table fields _ _ => exact named_shows h hs
  | array items _ => exact hitems hs
  | tables items _ => exact hitems hs
  | datetime =>
    cases hs
    rfl
  | string | integer | float | boolean => cases hs

/-- A section in which no reader changes the setting leaves it. -/
theorem Spares.section (h : ∀ e ∈ readers, Spares view e.2) :
    Spares view (section_ expected readers) := by
  have hshown : Shown view "" (fun _ => []) readers := .none rfl h
  intro place n s s' hs
  rw [hshown.section place n s s' hs]
  exact congrArg (fun vs : List _ => vs.getLast?.or _) (List.flatMap_eq_nil_iff.2 fun _ _ => rfl)

end

/-! ### All settings -/

/-- The names in the section for the log file. -/
def loggingNames : List String := ["file", "file_path", "file_level"]

section

variable {β : Type} {view : Given → Option β}

theorem shows_single {view : Given → Option String} {name expected expected' : String}
    {set : String → Given → Given} (h : ∀ t g, view (set t g) = some t) :
    Shows view (fun n => (under name (n.named [name])).flatMap (·.text?.toList))
      (section_ expected [(name, text expected' set)]) :=
  Shown.section (.here (.text h) (List.forall_mem_nil _) (List.forall_mem_nil _))

theorem spares_single {name expected expected' : String} {set : String → Given → Given}
    (h : ∀ t g, view (set t g) = view g) :
    Spares view (section_ expected [(name, text expected' set)]) :=
  .section (List.forall_mem_singleton.2 (.text h))

theorem spares_logging (hfile : ∀ b g, view (Given.setters.logToFile b g) = view g)
    (hpath : ∀ t g, view (Given.setters.logDirectory t g) = view g)
    (hlevel : ∀ t g, view (Given.setters.logLevel t g) = view g) :
    Spares view (section_ "struct LoggingConfig" [("file", truth Given.setters.logToFile),
      ("file_path", text "path string" Given.setters.logDirectory),
      ("file_level", text "a string" Given.setters.logLevel)]) :=
  .section (List.forall_mem_cons.2 ⟨.truth hfile, List.forall_mem_cons.2
    ⟨.text hpath, List.forall_mem_singleton.2 (.text hlevel)⟩⟩)

/-- The section for the log file is the last one. -/
theorem shown_logging {key : String} {values : Node → List β}
    (hdebug : ∀ b g, view (Given.setters.debug b g) = view g)
    (hids : ∀ t g, view (Given.setters.idPrefix t g) = view g)
    (hname : ∀ t g, view (Given.setters.contextName t g) = view g)
    (h : Shown view key values [("file", truth Given.setters.logToFile),
      ("file_path", text "path string" Given.setters.logDirectory),
      ("file_level", text "a string" Given.setters.logLevel)]) :
    Shown view "logging" (fun n => (under key (n.named loggingNames)).flatMap values)
      (settingReaders Given.setters) :=
  .there (by decide) (.truth hdebug) <| .there (by decide) (spares_single hids) <|
    .there (by decide) (spares_single hname) <|
    .here h.section (List.forall_mem_nil _) (List.forall_mem_nil _)

end

/-- A document says of each setting what stands last under its key: `debug`, and in the sections
`bridge`, `context` and `logging` the keys `id_prefix`, `variable`, `file`, `file_path` and
`file_level`. -/
theorem Given.ofDocument_says {t : Toml.Table} {g : Given} (h : Given.ofDocument t = .ok g) :
    let top := t.node.named []
    let inside (name : String) (names : List String) (key : String) : List Node :=
      (under name top).flatMap fun n => under key (n.named names)
    g.debug = ((under "debug" top).filterMap (·.truth?)).getLast? ∧
    g.idPrefix = ((inside "bridge" ["id_prefix"] "id_prefix").filterMap (·.text?)).getLast? ∧
    g.contextName = ((inside "context" ["variable"] "variable").filterMap (·.text?)).getLast? ∧
    g.logToFile = ((inside "logging" loggingNames "file").filterMap (·.truth?)).getLast? ∧
    g.logDirectory = ((inside "logging" loggingNames "file_path").filterMap (·.text?)).getLast? ∧
    g.logLevel = ((inside "logging" loggingNames "file_level").filterMap (·.text?)).getLast? := by
  intro top inside
  have hlast {β : Type} {view : Given → Option β} {key : String} {values : Node → List β}
      (hview : view {} = none) (hshown : Shown view key values (settingReaders Given.setters)) :
      view g = ((under key top).flatMap values).getLast? := by
    rw [named_shows hshown h, hview, Option.or_none]
    rfl
  have hinside {β : Type} (name : String) (names : List String) (key : String)
      (value : Node → Option β) :
      ((under name top).flatMap fun n =>
        (under key (n.named names)).flatMap fun n => (value n).toList) =
          (inside name names key).filterMap value := by
    rw [List.filterMap_eq_flatMap_toList, List.flatMap_assoc]
  refine ⟨?_, ?_, ?_, ?_, ?_, ?_⟩
  · rw [List.filterMap_eq_flatMap_toList]
    refine hlast rfl (.here (.truth fun _ _ => rfl) (by decide) ?_)
    exact List.forall_mem_cons.2 ⟨spares_single fun _ _ => rfl, List.forall_mem_cons.2
      ⟨spares_single fun _ _ => rfl, List.forall_mem_singleton.2
        (spares_logging (fun _ _ => rfl) (fun _ _ => rfl) fun _ _ => rfl)⟩⟩
  · rw [← hinside]
    refine hlast rfl (.there (by decide) (.truth fun _ _ => rfl) <|
      .here (shows_single fun _ _ => rfl) (by decide) ?_)
    exact List.forall_mem_cons.2 ⟨spares_single fun _ _ => rfl, List.forall_mem_singleton.2
      (spares_logging (fun _ _ => rfl) (fun _ _ => rfl) fun _ _ => rfl)⟩
  · rw [← hinside]
    refine hlast rfl (.there (by decide) (.truth fun _ _ => rfl) <|
      .there (by decide) (spares_single fun _ _ => rfl) <|
      .here (shows_single fun _ _ => rfl) (by decide) ?_)
    exact List.forall_mem_singleton.2
      (spares_logging (fun _ _ => rfl) (fun _ _ => rfl) fun _ _ => rfl)
  · rw [← hinside]
    refine hlast rfl (shown_logging (fun _ _ => rfl) (fun _ _ => rfl) (fun _ _ => rfl) ?_)
    refine .here (.truth fun _ _ => rfl) (by decide) (List.forall_mem_cons.2 ?_)
    exact ⟨.text fun _ _ => rfl, List.forall_mem_singleton.2 (.text fun _ _ => rfl)⟩
  · rw [← hinside]
    refine hlast rfl (shown_logging (fun _ _ => rfl) (fun _ _ => rfl) (fun _ _ => rfl) ?_)
    refine .there (by decide) (.truth fun _ _ => rfl) (.here (.text fun _ _ => rfl) (by decide) ?_)
    exact List.forall_mem_singleton.2 (.text fun _ _ => rfl)
  · rw [← hinside]
    refine hlast rfl (shown_logging (fun _ _ => rfl) (fun _ _ => rfl) (fun _ _ => rfl) ?_)
    exact .there (by decide) (.truth fun _ _ => rfl) <| .there (by decide) (.text fun _ _ => rfl) <|
      .here (.text fun _ _ => rfl) (List.forall_mem_nil _) (List.forall_mem_nil _)

/-- The section for the log file. -/
example : (Toml.read "[logging]\nfile = true\nfile_path = 'logs'\nfile_level = 'info'\n".toList >>=
    Given.ofDocument).toOption =
      some { logToFile := some true, logDirectory := some "logs", logLevel := some "info" } := by
  decide +kernel

end Config

end LuaSession
