import Mathlib.Data.List.Induction
import LuaSession.Config.Settings

/-!
# Layers of settings

Any number of layers laid over the defaults, one after the other. Each setting is told from what the layers
hold for it: the last of them that differs from the default counts. So what counts may be the default only
if no layer holds anything else, and a layer that holds the default hides nothing.

* `Counts`: which of some values counts, and `counts_iff`: it is the one that is left when each is laid over
  those before.
* `Settings.Told`: what layers say about every setting.
* `Settings.layered_append`: layers may be put together before they are laid over others.
* `Settings.layers_told`: what is left of layers, however they are grouped.
-/

namespace LuaSession.Config

/-! ### One setting -/

/-- Of some values, one after the other, the last that is not the default counts; if there is none, the
default does. -/
inductive Counts {α : Type} (default : α) : List α → α → Prop
  | last {before after : List α} {a : α} :
      a ≠ default → (∀ b ∈ after, b = default) → Counts default (before ++ a :: after) a
  | none {values : List α} : (∀ b ∈ values, b = default) → Counts default values default

section Counts

variable {α : Type} {default a b : α} {values : List α}

/-- One more default behind some values leaves what counts. -/
theorem Counts.default_behind (h : Counts default values a) : Counts default (values ++ [default]) a := by
  cases h with
  | @last before after _ hne hafter =>
    rw [List.append_assoc, List.cons_append]
    refine .last hne fun b hb => ?_
    rcases List.mem_append.mp hb with hb | hb
    · exact hafter b hb
    · exact List.mem_singleton.mp hb
  | none hall =>
    refine .none fun b hb => ?_
    rcases List.mem_append.mp hb with hb | hb
    · exact hall b hb
    · exact List.mem_singleton.mp hb

variable [DecidableEq α]

/-- What is left of values that are laid over the default counts. -/
theorem counts_foldl (default : α) (values : List α) :
    Counts default values (values.foldl (overlay default) default) := by
  induction values using List.reverseRecOn with
  | nil => exact .none fun b hb => absurd hb List.not_mem_nil
  | append_singleton values a ih =>
    rw [List.foldl_append, List.foldl_cons, List.foldl_nil]
    by_cases h : a = default
    · rw [h, overlay_default]
      exact ih.default_behind
    · rw [overlay, if_neg h]
      exact .last h fun b hb => absurd hb List.not_mem_nil

/-- Defaults that are laid over a value leave it. -/
theorem foldl_defaults (h : ∀ b ∈ values, b = default) : values.foldl (overlay default) a = a := by
  induction values with
  | nil => rfl
  | cons b values ih =>
    obtain ⟨rfl, hrest⟩ := List.forall_mem_cons.mp h
    rw [List.foldl_cons, overlay_default]
    exact ih hrest

/-- Only what is left of the values counts. -/
theorem counts_iff : Counts default values a ↔ values.foldl (overlay default) default = a := by
  constructor
  · intro h
    cases h with
    | @last before after _ hne hafter =>
      rw [List.foldl_append, List.foldl_cons, overlay, if_neg hne]
      exact foldl_defaults hafter
    | none hall => exact foldl_defaults hall
  · rintro rfl
    exact counts_foldl default values

theorem Counts.unique (ha : Counts default values a) (hb : Counts default values b) : a = b :=
  (counts_iff.mp ha).symm.trans (counts_iff.mp hb)

/-- Of truth values with the default false, true counts as soon as one of them is. -/
theorem counts_true {values : List Bool} : Counts false values true ↔ true ∈ values := by
  constructor
  · intro h
    cases h with
    | last => exact List.mem_append_right _ List.mem_cons_self
  · intro h
    cases hleft : values.foldl (overlay false) false with
    | true => exact counts_iff.mpr hleft
    | false =>
      cases counts_iff.mpr hleft with
      | last hne => exact absurd rfl hne
      | none hall => exact absurd (hall true h) (Bool.noConfusion ·)

end Counts

namespace Settings

/-! ### All settings -/

/-- What layers say about every setting; the log file is asked for as soon as one of them does. -/
structure Told (layers : List Settings) (s : Settings) : Prop where
  debug : Counts false (layers.map (·.debug)) s.debug
  idPrefix : Counts "bridge" (layers.map (·.idPrefix)) s.idPrefix
  contextName : Counts "context" (layers.map (·.contextName)) s.contextName
  logToFile : s.logToFile = true ↔ ∃ layer ∈ layers, layer.logToFile = true
  logDirectory : Counts none (layers.map (·.logDirectory)) s.logDirectory
  logLevel : Counts "debug" (layers.map (·.logLevel)) s.logLevel

/-- Layers laid over the defaults, the first one first. -/
def layered (layers : List Settings) : Settings :=
  layers.foldl merge {}

/-- A setting that is laid over on its own has what counts of the layers. -/
theorem counts_layered {α : Type} [DecidableEq α] (get : Settings → α)
    (hget : ∀ a b : Settings, get (a.merge b) = overlay (get {}) (get a) (get b))
    (layers : List Settings) : Counts (get {}) (layers.map get) (get (layered layers)) := by
  rw [counts_iff, List.foldl_map, layered]
  exact List.foldl_hom get fun a b => (hget a b).symm

theorem told_layered (layers : List Settings) : Told layers (layered layers) where
  debug := counts_layered debug (fun _ _ => rfl) layers
  idPrefix := counts_layered idPrefix (fun _ _ => rfl) layers
  contextName := counts_layered contextName (fun _ _ => rfl) layers
  logToFile := by
    have hcounts := counts_layered logToFile (fun _ _ => rfl) layers
    constructor
    · intro h
      rw [h] at hcounts
      exact List.mem_map.mp (counts_true.mp hcounts)
    · intro h
      exact hcounts.unique (counts_true.mpr (List.mem_map.mpr h))
  logDirectory := counts_layered logDirectory (fun _ _ => rfl) layers
  logLevel := counts_layered logLevel (fun _ _ => rfl) layers

/-- What layers say leaves no choice. -/
theorem Told.unique {layers : List Settings} {s t : Settings} (hs : Told layers s) (ht : Told layers t) :
    s = t := by
  have hfile : s.logToFile = t.logToFile := Bool.eq_iff_iff.mpr (hs.logToFile.trans ht.logToFile.symm)
  cases s
  cases t
  simp only [mk.injEq]
  exact ⟨hs.debug.unique ht.debug, hs.idPrefix.unique ht.idPrefix,
    hs.contextName.unique ht.contextName, hfile, hs.logDirectory.unique ht.logDirectory,
    hs.logLevel.unique ht.logLevel⟩

/-! ### Layers put together -/

/-- Layers over some settings are what is left of the layers, over the settings. -/
theorem foldl_merge (s : Settings) (layers : List Settings) :
    layers.foldl merge s = s.merge (layered layers) := by
  induction layers using List.reverseRecOn with
  | nil => exact (merge_default s).symm
  | append_singleton layers layer ih =>
    simp only [layered, List.foldl_append, List.foldl_cons, List.foldl_nil] at ih ⊢
    rw [ih, merge_assoc]

theorem layered_append (lower upper : List Settings) :
    layered (lower ++ upper) = (layered lower).merge (layered upper) := by
  rw [layered, List.foldl_append, foldl_merge]
  rfl

theorem layered_singleton (s : Settings) : layered [s] = s := default_merge s

/-- Some layers, put together in any order of joining. -/
inductive Grouping
  | defaults
  | layer (s : Settings)
  | join (lower upper : Grouping)

namespace Grouping

/-- The layers of a grouping, the first one first. -/
def layers : Grouping → List Settings
  | defaults => []
  | layer s => [s]
  | join lower upper => lower.layers ++ upper.layers

/-- The layers joined as they are grouped. -/
def merged : Grouping → Settings
  | defaults => {}
  | layer s => s
  | join lower upper => lower.merged.merge upper.merged

theorem merged_eq (g : Grouping) : g.merged = layered g.layers := by
  induction g with
  | defaults => rfl
  | layer s => exact (layered_singleton s).symm
  | join lower upper hlower hupper => rw [merged, layers, hlower, hupper, layered_append]

end Grouping

/-- Layers that come twice in a row count once. -/
theorem layered_twice (before group after : List Settings) :
    layered (before ++ group ++ group ++ after) = layered (before ++ group ++ after) := by
  simp only [layered_append]
  rw [merge_assoc (layered before), merge_self]

/-- **Layers are told.** Of any layers, each setting has the value of the last that differs from the
default, or the default. Laying settings over each other is associative and idempotent, with the defaults
as its identity. However layers are grouped, they come to the same as one after the other, and some that
come twice in a row count once. -/
theorem layers_told :
    (∀ layers s, layered layers = s ↔ Told layers s) ∧
      (∀ s : Settings, s.merge {} = s ∧ merge {} s = s ∧ s.merge s = s) ∧
      (∀ a b c : Settings, (a.merge b).merge c = a.merge (b.merge c)) ∧
      (∀ g : Grouping, g.merged = layered g.layers) ∧
      ∀ before group after : List Settings,
        layered (before ++ group ++ group ++ after) = layered (before ++ group ++ after) := by
  refine ⟨fun layers s => ?told, fun s => ?laws, merge_assoc, Grouping.merged_eq, layered_twice⟩
  case told =>
    constructor
    · rintro rfl
      exact told_layered layers
    · intro h
      exact (told_layered layers).unique h
  case laws => exact ⟨merge_default s, default_merge s, merge_self s⟩

/-- A layer that holds the default hides nothing. -/
example : (layered [{ idPrefix := "host" }, { debug := true }, { idPrefix := "bridge" }]).idPrefix =
    "host" := by decide

end Settings

end LuaSession.Config
