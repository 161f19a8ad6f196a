import Mathlib.Data.List.Forall2
import LuaSession.CommandLine.Run
import LuaSession.Service.World
import LuaSession.Proofs.Correspondence

/-!
# The layers of the settings

What each source says about the settings, apart from what they are where it says nothing: a file, the
environment or the arguments. Files are laid over each other after the defaults have filled them, so a
file cannot be told from one that leaves out what it sets to the default.

* `Settings.ofDocument_eq`: a document gives the defaults with what it says.
* `Settings.merge_given`: what counts of a file that is laid over settings.
* `resolve_layers`: which source each setting comes from in the end.
* `default_ignored`: a file in which a setting is set back to the default.
-/

namespace LuaSession.Config

/-- What a source says about the settings. -/
structure Given where
  debug : Option Bool := none
  idPrefix : Option String := none
  contextName : Option String := none
  logToFile : Option Bool := none
  logDirectory : Option String := none
  logLevel : Option String := none
  deriving DecidableEq, Repr

namespace Given

/-- What two sources say; the upper one comes first. -/
def upon (upper lower : Given) : Given where
  debug := upper.debug.or lower.debug
  idPrefix := upper.idPrefix.or lower.idPrefix
  contextName := upper.contextName.or lower.contextName
  logToFile := upper.logToFile.or lower.logToFile
  logDirectory := upper.logDirectory.or lower.logDirectory
  logLevel := upper.logLevel.or lower.logLevel

/-- Settings with what a source says. -/
def apply (g : Given) (s : Settings) : Settings where
  debug := g.debug.getD s.debug
  idPrefix := g.idPrefix.getD s.idPrefix
  contextName := g.contextName.getD s.contextName
  logToFile := g.logToFile.getD s.logToFile
  logDirectory := g.logDirectory.or s.logDirectory
  logLevel := g.logLevel.getD s.logLevel

/-- What a source says that differs from the defaults. -/
def departures (g : Given) : Given where
  debug := g.debug.filter (· ≠ false)
  idPrefix := g.idPrefix.filter (· ≠ "bridge")
  contextName := g.contextName.filter (· ≠ "context")
  logToFile := g.logToFile.filter (· ≠ false)
  logDirectory := g.logDirectory
  logLevel := g.logLevel.filter (· ≠ "debug")

theorem apply_upon (upper lower : Given) (s : Settings) :
    (upper.upon lower).apply s = upper.apply (lower.apply s) := by
  simp [apply, upon, Option.or_assoc, Option.getD_or]

end Given

/-! ### Layers over the defaults -/

/-- Of a layer that the default has filled, only what differs from the default wins. -/
theorem overlay_getD {α : Type} [DecidableEq α] (default lower : α) (upper : Option α) :
    overlay default lower (upper.getD default) =
      (upper.filter (· ≠ default)).getD lower := by
  cases upper with
  | none => simp [overlay]
  | some a => by_cases h : a = default <;> simp [overlay, Option.filter, h]

/-- Settings laid over others count where they differ from the defaults. -/
theorem Settings.merge_given (s : Settings) (g : Given) :
    s.merge (g.apply {}) = g.departures.apply s := by
  have hdirectory : overlay none s.logDirectory (g.logDirectory.or none) =
      g.logDirectory.or s.logDirectory := by
    cases g.logDirectory <;> simp [overlay]
  simp only [merge, Given.apply, Given.departures, overlay_getD, hdirectory]

/-! ### Documents -/

section Readers

variable {α β γ δ ε : Type} {f : β → α}

/-- Two steps through a list that do the same on both sides of a map. -/
theorem foldlM_commutes {step : α → γ → Except ε α} {step' : β → δ → Except ε β}
    {R : γ → δ → Prop} (h : ∀ b c d, R c d → step (f b) c = (step' b d).map f) {cs : List γ}
    {ds : List δ} (hs : List.Forall₂ R cs ds) (b : β) :
    cs.foldlM step (f b) = (ds.foldlM step' b).map f := by
  induction hs generalizing b with
  | nil => rfl
  | cons hcd _ ih =>
    rw [List.foldlM_cons, List.foldlM_cons, h b _ _ hcd]
    cases step' b _ with
    | error e => rfl
    | ok b => exact ih b

/-- Two readers of a setting of the same name do the same on both sides of a map. -/
def Commutes (f : β → α) (r : String × SettingReader α) (r' : String × SettingReader β) : Prop :=
  r.1 = r'.1 ∧ ∀ place n b, r.2 place n (f b) = (r'.2 place n b).map f

variable {readers : List (String × SettingReader α)} {readers' : List (String × SettingReader β)}

theorem named_commutes (h : List.Forall₂ (Commutes f) readers readers')
    (fields : List (Toml.Key × Toml.Node)) (b : β) :
    named readers fields (f b) = (named readers' fields b).map f := by
  refine foldlM_commutes (R := Eq) (fun b field _ he => ?_) (List.forall₂_refl _) b
  subst he
  dsimp only
  induction h with
  | nil => rfl
  | @cons r r' _ _ hr _ ih =>
    obtain ⟨hname, hread⟩ := hr
    rw [List.lookup_cons, List.lookup_cons, hname]
    cases hk : field.1.name == r'.1 with
    | true => exact hread _ _ b
    | false => exact ih

theorem truth_commutes {name : String} {set : Bool → α → α} {set' : Bool → β → β}
    (h : ∀ v b, set v (f b) = f (set' v b)) : Commutes f (name, truth set) (name, truth set') := by
  refine ⟨rfl, fun place n b => ?_⟩
  cases n with
  | boolean v _ => exact congrArg Except.ok (h v b)
  | _ => rfl

theorem text_commutes {name expected : String} {set : String → α → α} {set' : String → β → β}
    (h : ∀ v b, set v (f b) = f (set' v b)) :
    Commutes f (name, text expected set) (name, text expected set') := by
  refine ⟨rfl, fun place n b => ?_⟩
  cases n with
  | string v _ => exact congrArg Except.ok (h v b)
  | _ => rfl

/-- Readers in order, each with its item. -/
theorem zip_commutes (h : List.Forall₂ (Commutes f) readers readers') (items : List Toml.Node) :
    List.Forall₂ (fun r r' => Commutes f r.1 r'.1 ∧ r.2 = r'.2) (readers.zip items)
      (readers'.zip items) := by
  induction h generalizing items with
  | nil => exact .nil
  | cons hr _ ih =>
    cases items with
    | nil => exact .nil
    | cons item items => exact .cons ⟨hr, rfl⟩ (ih items)

theorem section_commutes {name expected : String}
    (h : List.Forall₂ (Commutes f) readers readers') :
    Commutes f (name, section_ expected readers) (name, section_ expected readers') := by
  have hitems (place : Toml.Span) (items : List Toml.Node) (b : β) :
      (readers.zip items).foldlM
          (fun s (r : (String × SettingReader α) × Toml.Node) =>
            r.1.2 (r.2.span?.getD place) r.2 s) (f b) =
        ((readers'.zip items).foldlM
          (fun s (r : (String × SettingReader β) × Toml.Node) =>
            r.1.2 (r.2.span?.getD place) r.2 s) b).map f := by
    refine foldlM_commutes (fun b r r' hr => ?_) (zip_commutes h items) b
    obtain ⟨hread, hn⟩ := hr
    rw [hn]
    exact hread.2 _ _ b
  refine ⟨rfl, fun place n b => ?_⟩
  cases n with
  | table fields _ _ => exact named_commutes h fields b
  | array items _ => exact hitems place items b
  | tables items _ => exact hitems place items b
  | string | integer | float | boolean | datetime => rfl

/-- What settings do to something is what they do to something else, seen through a map. -/
structure Setters.Commute (f : β → α) (set : Setters α) (set' : Setters β) : Prop where
  debug : ∀ v b, set.debug v (f b) = f (set'.debug v b)
  idPrefix : ∀ v b, set.idPrefix v (f b) = f (set'.idPrefix v b)
  contextName : ∀ v b, set.contextName v (f b) = f (set'.contextName v b)
  logToFile : ∀ v b, set.logToFile v (f b) = f (set'.logToFile v b)
  logDirectory : ∀ v b, set.logDirectory v (f b) = f (set'.logDirectory v b)
  logLevel : ∀ v b, set.logLevel v (f b) = f (set'.logLevel v b)

theorem settingReaders_commute {set : Setters α} {set' : Setters β} (h : set.Commute f set') :
    List.Forall₂ (Commutes f) (settingReaders set) (settingReaders set') :=
  .cons (truth_commutes h.debug) <|
  .cons (section_commutes (.cons (text_commutes h.idPrefix) .nil)) <|
  .cons (section_commutes (.cons (text_commutes h.contextName) .nil)) <|
  .cons (section_commutes (.cons (truth_commutes h.logToFile) <|
    .cons (text_commutes h.logDirectory) <| .cons (text_commutes h.logLevel) .nil)) .nil

end Readers

/-- A document says what it sets. -/
def Given.setters : Setters Given where
  debug b g := { g with debug := some b }
  idPrefix t g := { g with idPrefix := some t }
  contextName t g := { g with contextName := some t }
  logToFile b g := { g with logToFile := some b }
  logDirectory t g := { g with logDirectory := some t }
  logLevel t g := { g with logLevel := some t }

/-- What a document says about the settings. -/
def Given.ofDocument (t : Toml.Table) : Except Toml.ReadError Given :=
  named (settingReaders setters) t.fields {}

/-- A document gives the defaults with what it says. -/
theorem Settings.ofDocument_eq (t : Toml.Table) :
    Settings.ofDocument t = (Given.ofDocument t).map (·.apply {}) := by
  refine named_commutes (f := fun g : Given => g.apply {}) (settingReaders_commute ?_) t.fields {}
  constructor <;> exact fun _ _ => rfl

/-! ### Sources -/

/-- What a file says; one that is missing says nothing. -/
def Given.ofFile (path : String) : FileContent → Except ConfigError Given
  | .absent => .ok {}
  | .unreadable d => .error (.unreadableFile path d)
  | .bytes content =>
    match Text.Utf8.decode? content with
    | .error _ => .error (.unreadableFile path "stream did not contain valid UTF-8")
    | .ok text =>
      match Toml.read text.toList >>= ofDocument with
      | .error e => .error (.malformedFile path (e.report text.toList))
      | .ok g => .ok g

/-- A file is laid over settings by what it says that differs from the defaults. -/
theorem layerOf_given (path : String) (content : FileContent) (s : Settings) :
    ((layerOf path content).map fun layer => (layer.map s.merge).getD s) =
      (Given.ofFile path content).map (·.departures.apply s) := by
  cases content with
  | absent => rfl
  | unreadable d => rfl
  | bytes content =>
    unfold layerOf Given.ofFile
    dsimp only
    cases Text.Utf8.decode? content with
    | error e => rfl
    | ok text =>
      dsimp only [Settings.read]
      cases Toml.read text.toList with
      | error e => rfl
      | ok t =>
        simp only [bind, Except.bind, Settings.ofDocument_eq]
        cases Given.ofDocument t with
        | error e => rfl
        | ok g => exact congrArg Except.ok (s.merge_given g)

/-- What the environment says about the settings. A log directory asks for a log file. -/
def Environment.given (e : Environment) : Given where
  debug := e.debug.bind truthOf
  idPrefix := e.idPrefix
  logToFile := e.logDirectory.map fun _ => true
  logDirectory := e.logDirectory
  logLevel := e.logLevel

theorem Environment.apply_given {e : Environment} {s t : Settings} (h : e.apply s = .ok t) :
    t = e.given.apply s := by
  have hfile : (s.logToFile || e.logDirectory.isSome) =
      (e.logDirectory.map fun _ => true).getD s.logToFile := by
    cases e.logDirectory <;> simp
  obtain ⟨debug, _, _, _⟩ := e
  cases debug with
  | none =>
    cases h
    simp only [Environment.given, Given.apply, Option.bind_none, Option.getD_none] at hfile ⊢
    rw [← hfile]
  | some text =>
    simp only [apply] at h
    cases ht : truthOf text with
    | none =>
      rw [ht] at h
      cases h
    | some b =>
      rw [ht] at h
      cases h
      simp only [Environment.given, Given.apply, Option.bind_some, ht] at hfile ⊢
      rw [← hfile]
      rfl

/-- What is found at some moment: files at paths, variables and the home of the user. -/
structure Found where
  file : String → FileContent
  variable_ : String → Option ByteArray
  home : Option String

/-- What the environment says; what is no text says nothing. -/
def Found.environment (f : Found) : Environment where
  debug := text "RLM_DEBUG"
  idPrefix := text "RLM_BRIDGE_PREFIX"
  logDirectory := text "RLM_LOG_FILE"
  logLevel := text "RLM_LOG_LEVEL"
where
  /-- The value of a variable. -/
  text (name : String) : Option String :=
    (f.variable_ name).bind fun b => (Text.Utf8.decode? b).toOption

/-- In a world the sources have this, and looking at them leaves the world as it is. -/
structure Sources.Show {W : Type} (src : Sources (StateM W)) (w : W) (f : Found) : Prop where
  file : ∀ path, src.file path w = (f.file path, w)
  variable_ : ∀ name, src.variable_ name w = (f.variable_ name, w)
  home : src.home w = (f.home, w)

variable {W : Type} {src : Sources (StateM W)} {w : W} {f : Found}

theorem environment_found (hsrc : src.Show w f) : src.environment w = (f.environment, w) := by
  simp only [Sources.environment, bind, StateT.bind, pure, pure_stateT, hsrc.variable_]
  rfl

theorem layFile_given (hsrc : src.Show w f) (path : String) (s : Settings) :
    layFile src path s w =
      ((Given.ofFile path (f.file path)).map (·.departures.apply s), w) := by
  rw [← layerOf_given]
  simp only [layFile, bind, ExceptT.bind, ExceptT.mk, StateT.bind, liftM, monadLift,
    MonadLift.monadLift, ExceptT.lift, Functor.map, StateT.map, pure, hsrc.file, ExceptT.bindCont]
  cases layerOf path (f.file path) with
  | error e => rfl
  | ok layer => rfl

/-- A first step that leaves the world as it is, and what comes after it. -/
theorem ok_of_bind {ε α β : Type} {x : ExceptT ε (StateM W) α} {r : Except ε α}
    {k : α → ExceptT ε (StateM W) β} {b : β} {w' : W} (hx : x w = (r, w))
    (h : (x >>= k) w = (.ok b, w')) : ∃ a, r = .ok a ∧ k a w = (.ok b, w') := by
  simp only [bind, ExceptT.bind, ExceptT.mk, StateT.bind, hx] at h
  cases r with
  | error e => cases h
  | ok a => exact ⟨a, rfl, h⟩

theorem map_eq_ok {ε α β : Type} {g : α → β} {x : Except ε α} {b : β} (h : x.map g = .ok b) :
    ∃ a, x = .ok a ∧ b = g a := by
  cases x with
  | error e => cases h
  | ok a => exact ⟨a, rfl, (Except.ok.inj h).symm⟩

theorem lift_found {ε α : Type} {x : StateM W α} {a : α} (hx : x w = (a, w)) :
    (liftM x : ExceptT ε (StateM W) α) w = (.ok a, w) := by
  simp only [liftM, monadLift, MonadLift.monadLift, ExceptT.lift, ExceptT.mk, Functor.map,
    StateT.map, hx]
  rfl

/-- Loading lays the files over the defaults, and over them the environment. -/
theorem load_given (hsrc : src.Show w f) {l : Loader} {root : String}
    (hroot : l.projectRoot = some root) (henv : l.skipEnvironment = false)
    (hglobal : l.skipGlobal = false) (hproject : l.skipProject = false) {s : Settings} {w' : W}
    (h : l.load src w = (.ok s, w')) :
    ∃ global project,
      Given.ofFile (l.globalPath.getD (globalFile f.home))
        (f.file (l.globalPath.getD (globalFile f.home))) = .ok global ∧
      Given.ofFile (projectFile root) (f.file (projectFile root)) = .ok project ∧
      s = f.environment.given.apply (project.departures.apply (global.departures.apply {})) := by
  unfold Loader.load at h
  simp only [henv, hglobal, hproject, hroot, Bool.not_false, if_true] at h
  obtain ⟨_, ⟨⟩, h⟩ := ok_of_bind (lift_found hsrc.home) h
  obtain ⟨s₁, hg, h⟩ := ok_of_bind (layFile_given hsrc _ _) h
  obtain ⟨s₂, hp, h⟩ := ok_of_bind (layFile_given hsrc _ _) h
  obtain ⟨_, ⟨⟩, h⟩ := ok_of_bind (lift_found (environment_found hsrc)) h
  obtain ⟨global, hglobal, rfl⟩ := map_eq_ok hg
  obtain ⟨project, hproject, rfl⟩ := map_eq_ok hp
  refine ⟨global, project, hglobal, hproject, ?_⟩
  cases ha : f.environment.apply (project.departures.apply (global.departures.apply {})) with
  | error e =>
    rw [ha] at h
    cases h
  | ok t =>
    simp only [ha] at h
    -- What is not usable is no result.
    have hts : t = s := by
      cases hv : validate t with
      | error e =>
        rw [hv] at h
        cases h
      | ok _ =>
        rw [hv] at h
        cases h
        rfl
    rw [← hts]
    exact Environment.apply_given ha

/-! ### All sources -/

open CommandLine Service

/-- What the arguments say about the settings. A log directory asks for a log file. -/
def Given.ofArguments (a : Arguments) : Given where
  debug := if a.debug then some true else none
  logToFile := a.logFile.map fun _ => true
  logDirectory := a.logFile
  logLevel := a.logLevel

theorem Given.ofArguments_apply (a : Arguments) (s : Settings) :
    (Given.ofArguments a).apply s = a.apply s := by
  have hdebug : (if a.debug then some true else none).getD s.debug = (s.debug || a.debug) := by
    cases a.debug <;> simp
  have hfile : (a.logFile.map fun _ => true).getD s.logToFile =
      (s.logToFile || a.logFile.isSome) := by
    cases a.logFile <;> simp
  simp only [Given.ofArguments, Given.apply, hdebug, hfile, Option.getD_none]
  rfl

/-- Where settings come from: of the arguments, the environment, the file of the project and the file
for all projects, each setting is what the first of them says that says something about it, and
the default if none of them does. What a file sets to the default does not count. -/
theorem resolve_layers (hsrc : src.Show w f) {a : Arguments} {workingDirectory : String}
    {s : Settings} {w' : W} (h : a.resolve workingDirectory src w = (.ok s, w')) :
    ∃ global project,
      Given.ofFile (a.config.getD (globalFile f.home))
        (f.file (a.config.getD (globalFile f.home))) = .ok global ∧
      Given.ofFile (projectFile (a.project.getD workingDirectory))
        (f.file (projectFile (a.project.getD workingDirectory))) = .ok project ∧
      s = ((Given.ofArguments a).upon (f.environment.given.upon
        (project.departures.upon global.departures))).apply {} := by
  unfold Arguments.resolve at h
  simp only [bind, ExceptT.bind, ExceptT.mk, StateT.bind] at h
  cases hl : (a.loader workingDirectory).load src w with
  | mk r w₁ =>
    rw [hl] at h
    cases r with
    | error e => cases h
    | ok t =>
      obtain ⟨global, project, hglobal, hproject, rfl⟩ := load_given hsrc rfl rfl rfl rfl hl
      refine ⟨global, project, hglobal, hproject, ?_⟩
      cases h
      simp only [Given.apply_upon, Given.ofArguments_apply]

/-- What is found in a world. -/
def Found.ofWorld (w : World) : Found where
  file path := (World.sources.file path w).1
  variable_ := w.environmentValue
  home := w.home

theorem sources_show (w : World) : World.sources.Show w (.ofWorld w) :=
  ⟨fun _ => rfl, fun _ => rfl, rfl⟩

/-- A world with a file for all projects and one of a project. -/
def twoFiles : World where
  tree := {
    entries := [
      (["etc"], .directory),
      (["etc", "all.toml"], .file "debug = true\n[context]\nvariable = \"doc\"\n".toUTF8),
      (["p"], .directory), (["p", ".rlm"], .directory),
      (["p", ".rlm", "config.toml"],
        .file "debug = false\n[bridge]\nid_prefix = \"x\"\n".toUTF8)] }
  environment := [("RLM_LOG_LEVEL", "trace".toUTF8)]

theorem resolve_layers_sample :
    ∃ global project,
      Given.ofFile "/etc/all.toml" ((Found.ofWorld twoFiles).file "/etc/all.toml") = .ok global ∧
      Given.ofFile (projectFile "/p") ((Found.ofWorld twoFiles).file (projectFile "/p")) =
        .ok project ∧
      ({ debug := true, idPrefix := "x", contextName := "doc", logToFile := true,
         logDirectory := some "/logs", logLevel := "trace" } : Settings) =
        ((Given.ofArguments { config := some "/etc/all.toml", logFile := some "/logs" }).upon
          ((Found.ofWorld twoFiles).environment.given.upon
            (project.departures.upon global.departures))).apply {} := by
  have h : (Arguments.resolve { config := some "/etc/all.toml", logFile := some "/logs" } "/p"
      World.sources twoFiles).1 =
        .ok { debug := true, idPrefix := "x", contextName := "doc", logToFile := true,
              logDirectory := some "/logs", logLevel := "trace" } := by decide +kernel
  exact resolve_layers (sources_show twoFiles) (Prod.ext h rfl)

/-- The file of a project cannot set back to the default what the file for all projects sets. -/
theorem default_ignored :
    Given.ofFile "/etc/all.toml" ((Found.ofWorld twoFiles).file "/etc/all.toml") =
        .ok { debug := some true, contextName := some "doc" } ∧
      Given.ofFile (projectFile "/p") ((Found.ofWorld twoFiles).file (projectFile "/p")) =
        .ok { debug := some false, idPrefix := some "x" } ∧
      (Found.ofWorld twoFiles).environment.given = { logLevel := some "trace" } ∧
      (Arguments.resolve { config := some "/etc/all.toml" } "/p" World.sources twoFiles).1 =
        .ok { debug := true, idPrefix := "x", contextName := "doc", logLevel := "trace" } := by
  decide +kernel

end LuaSession.Config
