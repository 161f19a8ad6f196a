import LuaSession.Proofs.Session.Policy

/-!
# Between evaluations

An evaluation changes the memory, the coroutines and the sink of a session. The context is none of
them, and when the evaluation is over no function runs.

* `Session.execute_leaves`, `Session.lookup_leaves`: what an evaluation leaves of a session.
* `Session.start_rests`: in a new session no function runs.
-/

namespace LuaSession

open LuaSession.Lua

variable {W α β : Type}

/-- In whatever world, the result has a property. -/
def Always (P : α → Prop) (x : StateM W α) : Prop :=
  ∀ w, P (x w).1

namespace Always

theorem pure {P : α → Prop} {a : α} (h : P a) : Always P (Pure.pure a : StateM W α) :=
  fun _ => h

theorem bind {P : α → Prop} {Q : β → Prop} {x : StateM W α} {f : α → StateM W β}
    (hx : Always P x) (hf : ∀ a, P a → Always Q (f a)) : Always Q (x >>= f) :=
  fun w => hf _ (hx w) _

/-- Parts whose results may be anything. -/
theorem bind_any {Q : β → Prop} {x : StateM W α} {f : α → StateM W β}
    (hf : ∀ a, Always Q (f a)) : Always Q (x >>= f) :=
  fun _ => hf _ _

end Always

namespace Session

/-- No function runs. -/
structure Rests (s : Session) : Prop where
  slots : s.mem.slots = #[]
  act : s.mem.act = {}

theorem Rests.mem {s : Session} (h : s.Rests) : s.mem.atRest = s.mem := by
  rw [Mem.atRest, ← h.slots, ← h.act]

/-- The context and its name are what they were, and no function runs if none did before. -/
structure Leaves (s s' : Session) : Prop where
  text : s'.text = s.text
  name : s'.contextName = s.contextName
  rests : s.Rests → s'.Rests

theorem Leaves.refl (s : Session) : s.Leaves s := ⟨rfl, rfl, id⟩

variable {o : Outside (StateM W)} (fuel : Nat) (s : Session)

theorem run_leaves (t : Lua.Task (List Value)) :
    Always (IfOk fun r => s.Leaves r.2) (s.run o fuel t) := by
  refine .bind_any fun r => ?_
  cases r with
  | error h => exact .pure trivial
  | ok r => exact .pure ⟨rfl, rfl, fun _ => ⟨rfl, rfl⟩⟩

theorem evaluate_leaves (code : String) :
    Always (IfOk fun r => s.Leaves r.2) (s.evaluate o fuel code) := by
  unfold evaluate
  split
  · exact .pure (.refl s)
  · rename_i f _
    refine .bind (run_leaves fuel s (s.chunk f)) fun r hr => ?_
    split
    · exact .pure trivial
    · exact .pure hr
    · exact .pure hr

theorem execute_leaves (code : String) :
    Always (IfOk fun r => s.Leaves r.2) (s.execute o fuel code) := by
  unfold execute
  refine .bind_any fun _ => .bind (evaluate_leaves fuel _ code) fun r hr => ?_
  split
  · exact .pure trivial
  · refine .bind_any fun _ => .pure ⟨hr.text, hr.name, fun h => ?_⟩
    have hrests := hr.rests ⟨h.slots, h.act⟩
    exact ⟨hrests.slots, hrests.act⟩

theorem present_leaves (v : Value) :
    Always (IfOk fun r => s.Leaves r.2) (s.present o fuel v) := by
  unfold present
  split
  · exact .pure (.refl s)
  · refine .bind (run_leaves fuel s (textOf v)) fun r hr => ?_
    split
    · exact .pure trivial
    · exact .pure hr

theorem lookup_leaves (name : String) :
    Always (IfOk fun r => s.Leaves r.2) (s.lookup o fuel name) := by
  unfold lookup
  split
  · exact .pure (.refl s)
  · exact present_leaves fuel s _

/-! ### Changes of the bindings -/

variable {s}

theorem bindHost_rests (h : s.Rests) (fns : List (String × HostFn)) : (s.bindHost fns).Rests := by
  induction fns generalizing s with
  | nil => exact h
  | cons f fns ih => exact ih ⟨h.slots, h.act⟩

theorem setContext_rests (h : s.Rests) (text : String) : (s.setContext text).Rests := by
  have hbound : (Session.bind { s with text := text } (.text s.contextName) (.text text)).Rests :=
    ⟨h.slots, h.act⟩
  exact bindHost_rests (bindHost_rests hbound _) _

theorem clear_rests (h : s.Rests) : s.clear.Rests := by
  have hall (es : List (Value × Value)) (s : Session) (h : s.Rests) :
      (es.foldl (fun s e => s.bind e.1 .nil) s).Rests := by
    induction es generalizing s with
    | nil => exact h
    | cons e es ih => exact ih _ ⟨h.slots, h.act⟩
  have hs := hall s.entries s h
  exact ⟨hs.slots, hs.act⟩

end Session

end LuaSession
