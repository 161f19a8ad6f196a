import LuaSession.Proofs.Lua.Events

/-!
# Reading the context

The functions that search the context ask for it when they need it, unless a text is given. A run
answers with its own context, so it goes on as if that had been the text all along.

* `HostFn.search_told`: how a search that asks and a search in a text differ.
* `runFrom_search`: in a run they do not.
-/

namespace LuaSession.Lua

/-- One step is the other but for asking for the context first. -/
def Step.Told (context : String) (s t : Step) : Prop :=
  s = t ∨ ∃ k m, s = .ask .context k m ∧ k context m = t

/-- One computation is the other but for asking for the context first. -/
def Task.Told (context : String) {α : Type} (t u : Task α) : Prop :=
  ∀ k m, (t k m).Told context (u k m)

/-- The computation has its answer at once or raises an error, whatever comes after it. -/
def Task.Settled {α : Type} (t : Task α) : Prop :=
  ∀ m, (∃ a m', ∀ k, t k m = k a m') ∨ ∃ s, ∀ k, t k m = s

namespace Task

variable {α β : Type} {context : String}

theorem Told.refl (t : Task α) : t.Told context t := fun _ _ => .inl rfl

/-- What comes before is settled on both sides alike. -/
theorem Settled.told_bind {t : Task α} {f g : α → Task β} (ht : t.Settled)
    (h : ∀ a, (f a).Told context (g a)) : (t >>= f).Told context (t >>= g) := by
  intro k m
  change (t (fun a m => f a k m) m).Told context (t (fun a m => g a k m) m)
  obtain ⟨a, m', ha⟩ | ⟨s, hs⟩ := ht m
  · rw [ha, ha]
    exact h a k m'
  · rw [hs, hs]
    exact .inl rfl

/-- What comes after is the same on both sides. -/
theorem Told.bind_same {t u : Task α} (h : t.Told context u) (f : α → Task β) :
    (t >>= f).Told context (u >>= f) :=
  fun k m => h (fun a m => f a k m) m

/-- A part that may be left out, and otherwise is settled. -/
theorem Told.optional {γ : Type} {c : Prop} [Decidable c] {t : Task α} {given : α → Option β}
    {f g : Option β → Task γ} (ht : t.Settled) (h : ∀ b, (f b).Told context (g b)) :
    (if c then pure none >>= f else t >>= fun a => pure (given a) >>= f).Told context
      (if c then pure none >>= g else t >>= fun a => pure (given a) >>= g) := by
  split
  · exact h none
  · exact ht.told_bind fun a => h (given a)

/-! ### What is settled -/

namespace Settled

theorem pure (a : α) : (Pure.pure a : Task α).Settled :=
  fun m => .inl ⟨a, m, fun _ => rfl⟩

theorem raiseHost (e : HostError) : (Task.raiseHost e : Task α).Settled :=
  fun _ => .inr ⟨_, fun _ => rfl⟩

theorem bind {t : Task α} {f : α → Task β} (ht : t.Settled) (hf : ∀ a, (f a).Settled) :
    (t >>= f).Settled := by
  intro m
  obtain ⟨a, m', ha⟩ | ⟨s, hs⟩ := ht m
  · obtain ⟨b, m'', hb⟩ | ⟨s, hs⟩ := hf a m'
    · exact .inl ⟨b, m'', fun k => (ha _).trans (hb k)⟩
    · exact .inr ⟨s, fun k => (ha _).trans (hs k)⟩
  · exact .inr ⟨s, fun k => hs _⟩

end Settled

end Task

namespace HostFn

variable {context : String} (c : Call) (n : Nat)

open LuaSession.Lua.Task (Settled Told)

theorem failConversion_settled {α : Type} (wanted note : String) :
    (failConversion c n wanted note : Task α).Settled :=
  .raiseHost _

theorem byteString_settled : (byteString c n).Settled := by
  unfold byteString
  split
  · exact .pure _
  · exact failConversion_settled c n _ _

theorem looseText_settled : (looseText c n).Settled :=
  .bind (byteString_settled c n) fun _ => .pure _

theorem strictText_settled : (strictText c n).Settled := by
  unfold strictText
  split
  · split
    · exact .pure _
    · exact failConversion_settled c n _ _
  · exact failConversion_settled c n _ _

theorem integer_settled : (integer c n).Settled := by
  unfold integer
  split
  · exact .pure _
  · split
    · split
      · exact .pure _
      · exact failConversion_settled c n _ _
    · exact failConversion_settled c n _ _
  · exact failConversion_settled c n _ _

theorem integerOr_settled (default : Int) : (integerOr c n default).Settled := by
  unfold integerOr
  split
  · exact .pure _
  · exact integer_settled c n

theorem countOr_settled (default : Nat) : (countOr c n default).Settled :=
  .bind (integerOr_settled c n default) fun _ => .pure _

/-- The context is what the run says it is. -/
theorem contextText_told : contextText.Told context (pure context.toList) :=
  fun _ m => .inr ⟨_, m, rfl, rfl⟩

theorem textOr_told : (textOr contextText c n).Told context (textOr (pure context.toList) c n) := by
  unfold textOr
  split
  · exact contextText_told
  · exact .refl _

/-- A search that asks for the context asks once at most, and is then a search in the context. -/
theorem search_told (context : String) (u : Utility) :
    (search contextText u c).Told context (search (pure context.toList) u c) := by
  cases u with
  | chunkText =>
    refine .optional (looseText_settled c 1) fun given =>
      (integer_settled c 2).told_bind fun _ => (integerOr_settled c 3 0).told_bind fun _ => ?_
    cases given with
    | some s => exact .refl _
    | none => exact contextText_told.bind_same _
  | searchContext =>
    exact (strictText_settled c 1).told_bind fun _ =>
      (countOr_settled c 2 _).told_bind fun _ => (countOr_settled c 3 _).told_bind fun _ =>
      contextText_told.bind_same _
  | countMatches | extractSections | findLine =>
    exact (strictText_settled c 1).told_bind fun _ => contextText_told.bind_same _
  | extractJson => exact (textOr_told c 1).bind_same _
  | countLines =>
    exact .optional (strictText_settled c 1) fun _ => contextText_told.bind_same _
  | getLine =>
    exact (integer_settled c 1).told_bind fun _ => contextText_told.bind_same _
  | quoteMatch =>
    exact (strictText_settled c 1).told_bind fun _ => (countOr_settled c 2 _).told_bind fun _ =>
      contextText_told.bind_same _

end HostFn

/-! ### Calls of built-in functions -/

/-- The step raises an error. -/
def Step.Raises : Step → Prop
  | .raise .. | .rethrow .. => True
  | _ => False

namespace Machine

variable {x : Machine} {b : Builtin} {args vs : List Value}

/-- A call of a built-in function enters it, unless calls are nested too deep. -/
theorem call_builtin {f : Value} {site : Site} {k : List Value → Mem → Step} {m : Mem}
    (h : (resolve m 100 f args).toOption = some (.builtin b, vs)) :
    (∃ y, x.call f args site k m = .step (enterBuiltin b vs site m) y) ∨
      ∃ t y, x.call f args site k m = .step t y ∧ t.Raises := by
  cases hr : resolve m 100 f args with
  | error v =>
    rw [hr] at h
    cases h
  | ok g =>
    rw [hr] at h
    cases h
    simp only [call, hr]
    split
    · exact .inr ⟨_, _, rfl, trivial⟩
    · exact .inr ⟨_, _, rfl, trivial⟩
    · exact .inr ⟨_, _, rfl, trivial⟩
    · exact .inr ⟨_, _, rfl, trivial⟩
    · exact .inl ⟨_, rfl⟩

theorem advance_builtin {s : Step} (h : x.callee? s = some (.builtin b, vs)) :
    (∃ site m y, x.advance s = .step (enterBuiltin b vs site m) y) ∨
      ∃ t y, x.advance s = .step t y ∧ t.Raises := by
  have hcall {f : Value} {args : List Value} (site : Site) (k : List Value → Mem → Step) {m : Mem}
      (hf : (resolve m 100 f args).toOption = some (.builtin b, vs))
      (hs : x.advance s = x.call f args site k m) :
      (∃ site m y, x.advance s = .step (enterBuiltin b vs site m) y) ∨
        ∃ t y, x.advance s = .step t y ∧ t.Raises := by
    rw [hs]
    exact (call_builtin hf).imp_left fun ⟨y, hy⟩ => ⟨site, m, y, hy⟩
  cases s with
  | call f args site k m => exact hcall site k h rfl
  | leave flow m =>
    cases flow with
    | giveCall f args site =>
      rcases x with ⟨threads, current, frames, depth, base, waiting⟩
      cases frames with
      | nil => exact hcall site _ h rfl
      | cons frame rest =>
        cases frame with
        | call saved outer k =>
          refine hcall site (fun vs => .leave (.give vs)) h ?_
          replace h : (resolve m 100 f args).toOption = some (.builtin b, vs) := h
          cases hr : resolve m 100 f args with
          | error v =>
            rw [hr] at h
            cases h
          | ok g =>
            rw [hr] at h
            cases h
            simp only [advance, leave, callInstead, hr]
        | loop | protect => cases h
    | normal | leaveLoop | goto | give => cases h
  | raise | rethrow | loop | again | protect | ask | inquire | resume | yield | close => cases h

end Machine

/-! ### Runs -/

variable {M : Type → Type} [Monad M] [LawfulMonad M]

/-- A run answers with its own context. -/
theorem runFrom_told (o : Outside M) {context : String} {s t : Step} (h : s.Told context t) :
    ∃ steps ≤ 1, ∀ fuel sink x,
      runFrom o context (fuel + steps) sink x s = runFrom o context fuel sink x t := by
  obtain rfl | ⟨k, m, rfl, rfl⟩ := h
  · exact ⟨0, Nat.zero_le 1, fun _ _ _ => rfl⟩
  · refine ⟨1, Nat.le_refl 1, fun fuel sink x => ?_⟩
    rw [runFrom, Machine.advance]
    simp only [Request.answer, pure_bind]

/-- What a utility does on its arguments in a text that is the context. -/
def searchIn (context : String) (u : Utility) (args : List Value) (site : Site) (m : Mem) : Step :=
  HostFn.search (pure context.toList) u ⟨args, site, Builtin.path (.host (.utility u))⟩
    (fun vs => .leave (.give vs)) { m with slots := #[], act := {} }

/-- A step that enters a utility without a text goes on with a search in the context of the run. -/
theorem runFrom_search (o : Outside M) (context : String) {x y : Machine} {s : Step} {u : Utility}
    {args : List Value} {site : Site} {m : Mem}
    (h : x.advance s = .step (Machine.enterBuiltin (.host (.utility u)) args site m) y) :
    ∃ steps ≤ 1, ∀ fuel sink, runFrom o context (fuel + steps + 1) sink x s =
      runFrom o context fuel sink y (searchIn context u args site m) := by
  obtain ⟨steps, hsteps, hrun⟩ := runFrom_told o (HostFn.search_told
    ⟨args, site, Builtin.path (.host (.utility u))⟩ context u (fun vs => .leave (.give vs))
    { m with slots := #[], act := {} })
  refine ⟨steps, hsteps, fun fuel sink => ?_⟩
  rw [runFrom, h]
  exact hrun fuel sink y

/-! ### The middle of a run -/

/-- A run in its middle: how many steps are left, the sink, the machine, the step that comes next and
the world. -/
structure Running (W : Type) where
  fuel : Nat
  sink : Sink
  machine : Machine
  step : Step
  world : W

namespace Running

variable {W : Type} (o : Outside (StateM W)) (context : String)

/-- What the run comes to. -/
def outcome (u : Running W) : Except Halt Ran × W :=
  runFrom o context u.fuel u.sink u.machine u.step u.world

/-- The run one step later. -/
def next? (u : Running W) : Option (Running W) :=
  match u.fuel with
  | 0 => none
  | fuel + 1 =>
    match u.machine.advance u.step with
    | .step s x => some ⟨fuel, u.sink, x, s, u.world⟩
    | .done .. => none
    | .ask r k mem x =>
      match r.answer o context u.sink u.world with
      | (.ok (reply, sink), w) => some ⟨fuel, sink, x, k reply mem, w⟩
      | (.error _, _) => none

/-- One is the other some steps later. -/
inductive Leads : Running W → Running W → Prop
  | refl (u : Running W) : Leads u u
  | next {u v t : Running W} : Leads u v → v.next? o context = some t → Leads u t

variable {o context}

theorem next?_outcome {u v : Running W} (h : u.next? o context = some v) :
    u.outcome o context = v.outcome o context := by
  obtain ⟨fuel, sink, x, s, w⟩ := u
  cases fuel with
  | zero => cases h
  | succ fuel =>
    unfold next? at h
    rw [outcome, runFrom_succ]
    dsimp only at h ⊢
    generalize x.advance s = after at h ⊢
    rcases after with ⟨t, y⟩ | ⟨r, k, mem, y⟩ | ⟨result, mem, y⟩
    · cases h
      rfl
    · dsimp only at h ⊢
      generalize r.answer o context sink w = answered at h ⊢
      rcases answered with ⟨e | ⟨reply, sink'⟩, w'⟩
      · cases h
      · cases h
        rfl
    · cases h

/-- A run comes to the same from wherever it is looked at. -/
theorem Leads.outcome_eq {u v : Running W} (h : Leads o context u v) :
    u.outcome o context = v.outcome o context := by
  induction h with
  | refl => rfl
  | next _ hv ih => exact ih.trans (next?_outcome hv)

end Running

end LuaSession.Lua
