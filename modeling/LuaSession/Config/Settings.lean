import LuaSession.Text.Blank

/-!
# Settings

What can be set about the program. Settings are laid over each other: where the upper ones differ
from the defaults they win, so an upper layer can set a default back only by saying something else.

* `merge_default`, `default_merge`: the defaults over or under some settings change nothing.
* `merge_assoc`, `merge_self`: layers may be put together in any grouping, and twice the same layer
  is one layer.
-/

namespace LuaSession.Config

/-- The settings, with their defaults. -/
structure Settings where
  debug : Bool := false
  idPrefix : String := "bridge"
  contextName : String := "context"
  logToFile : Bool := false
  logDirectory : Option String := none
  logLevel : String := "debug"
  deriving DecidableEq, Repr

/-- A value over another: it wins if it is not the default. -/
def overlay {α : Type} [DecidableEq α] (default lower upper : α) : α :=
  if upper = default then lower else upper

section Overlay

variable {α : Type} [DecidableEq α] (default a b c : α)

theorem overlay_default : overlay default a default = a := by simp [overlay]

theorem default_overlay : overlay default default a = a := by
  unfold overlay
  split <;> simp_all

theorem overlay_self : overlay default a a = a := by simp [overlay]

theorem overlay_assoc :
    overlay default (overlay default a b) c = overlay default a (overlay default b c) := by
  unfold overlay
  split <;> simp_all

end Overlay

namespace Settings

/-- Settings over others. -/
def merge (lower upper : Settings) : Settings where
  debug := overlay false lower.debug upper.debug
  idPrefix := overlay "bridge" lower.idPrefix upper.idPrefix
  contextName := overlay "context" lower.contextName upper.contextName
  logToFile := overlay false lower.logToFile upper.logToFile
  logDirectory := overlay none lower.logDirectory upper.logDirectory
  logLevel := overlay "debug" lower.logLevel upper.logLevel

theorem merge_default (s : Settings) : s.merge {} = s := by simp [merge, overlay_default]

theorem default_merge (s : Settings) : merge {} s = s := by simp [merge, default_overlay]

theorem merge_self (s : Settings) : s.merge s = s := by simp [merge, overlay_self]

theorem merge_assoc (a b c : Settings) : (a.merge b).merge c = a.merge (b.merge c) := by
  simp [merge, overlay_assoc]

/-- What the log file is to hold: a level asks for the program's own events of that level and for
the warnings of others; anything with a sign for several directives or for a target stands as it
is. -/
def logDirectives (s : Settings) : String :=
  let level := Text.trim s.logLevel.toList
  let text := String.ofList level
  if level.contains '=' || level.contains ',' then text
  else "warn,rlm_sandbox=" ++ text ++ ",rlm_runtime=" ++ text ++ ",rlm_lua=" ++ text ++
    ",rlm_protocol=" ++ text

end Settings

end LuaSession.Config
