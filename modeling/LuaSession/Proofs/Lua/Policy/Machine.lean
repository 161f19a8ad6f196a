import LuaSession.Lua.Machine
import LuaSession.Proofs.Lua.Policy.Host

/-!
# A machine keeps to a policy

A machine obeys a policy if everything that waits in it does: in its own stack, in those of suspended
and failed coroutines, and in those of coroutines that wait for another one. One step keeps this, as
long as the built-in function that it enters, if any, asks only what the policy allows.

* `Machine.advance_obeys`: what one step keeps.
* `Machine.callee?`: what a step enters.
-/

namespace LuaSession.Lua

variable {p : Policy}

/-! ### What waits -/

/-- Everything after the frame obeys the policy. -/
def Frame.Obeys (p : Policy) : Frame → Prop
  | .call _ _ k => ∀ vs m, p.keeps m → (k vs m).Obeys p
  | .loop body k =>
    (∀ vs m, p.keeps m → (body vs m).Obeys p) ∧ ∀ flow m, p.keeps m → (k flow m).Obeys p
  | .protect _ _ k => ∀ r m, p.keeps m → (k r m).Obeys p

/-- Everything that waits in the stack obeys the policy. -/
def Stack.Obeys (p : Policy) (stack : Stack) : Prop :=
  ∀ f ∈ stack.frames, f.Obeys p

/-- Everything that waits in the coroutine obeys the policy. -/
def Thread.Obeys (p : Policy) : Thread → Prop
  | .suspended stack k => stack.Obeys p ∧ ∀ vs m, p.keeps m → (k vs m).Obeys p
  | .failed stack _ => stack.Obeys p
  | .fresh _ | .active | .finished => True

/-- Under a policy that demands nothing everything that waits is fine. -/
theorem Thread.obeys_any (t : Thread) : t.Obeys (.asking fun _ => True) := by
  have hstack (stack : Stack) : stack.Obeys (.asking fun _ => True) := by
    intro f _
    cases f with
    | call => exact fun _ _ _ => Step.obeys_any _
    | loop => exact ⟨fun _ _ _ => Step.obeys_any _, fun _ _ _ => Step.obeys_any _⟩
    | protect => exact fun _ _ _ => Step.obeys_any _
  cases t with
  | suspended stack k => exact ⟨hstack stack, fun _ _ _ => Step.obeys_any _⟩
  | failed stack e => exact hstack stack
  | fresh | active | finished => exact trivial

/-- Everything after the coroutine that is waited for obeys the policy. -/
def Waiting.Obeys (p : Policy) (w : Waiting) : Prop :=
  w.stack.Obeys p ∧ ∀ r m, p.keeps m → (w.k r m).Obeys p

/-- Everything that waits in the machine obeys the policy. -/
structure Machine.Obeys (p : Policy) (x : Machine) : Prop where
  threads : ∀ t ∈ x.threads, t.Obeys p
  frames : ∀ f ∈ x.frames, f.Obeys p
  waiting : ∀ w ∈ x.waiting, w.Obeys p

/-- What follows a step obeys the policy. -/
def Next.Obeys (p : Policy) : Next → Prop
  | .step s x => s.Obeys p ∧ x.Obeys p
  | .ask r k m x =>
    p.keeps m ∧ p.allows r ∧ (∀ a m, p.keeps m → (k a m).Obeys p) ∧ x.Obeys p
  | .done _ m x => p.keeps m ∧ x.Obeys p

namespace Machine

variable {x : Machine} {m : Mem}

/-- The function that a step enters, with its arguments. -/
def callee? (x : Machine) : Step → Option (Func × List Value)
  | .call f args _ _ m => (resolve m 100 f args).toOption
  | .leave (.giveCall f args _) m =>
    match x.frames with
    | [] | .call .. :: _ => (resolve m 100 f args).toOption
    | _ => none
  | _ => none

/-! ### Parts of a step -/

theorem Obeys.of_threads {y : Machine} (hx : x.Obeys p) (ht : ∀ t ∈ y.threads, t.Obeys p)
    (hf : y.frames = x.frames) (hw : y.waiting = x.waiting) : y.Obeys p :=
  ⟨ht, hf ▸ hx.frames, hw ▸ hx.waiting⟩

/-- A coroutine whose state changes to one that obeys the policy. -/
theorem threads_set {threads : Array Thread} (h : ∀ t ∈ threads, t.Obeys p) (id : Nat)
    (t : Thread) (ht : t.Obeys p) : ∀ u ∈ threads.setIfInBounds id t, u.Obeys p := by
  intro u hu
  obtain hu | rfl := Array.mem_or_eq_of_mem_setIfInBounds hu
  · exact h u hu
  · exact ht

theorem enter_obeys (hp : p.Stable) (hm : p.keeps m) (f : Proto) (captures : Array Nat)
    (args : List Value) : (enter f captures args m).Obeys p :=
  Task.Obeys.declareSlots hp _ _ _ _ (hp.frame m _ _ hm) fun _ m hm =>
    Task.Obeys.run hp f _ m hm fun _ _ hm => hm

theorem enterBuiltin_obeys (hp : p.Stable) (hm : p.keeps m) {b : Builtin}
    (hb : ∀ r, b.MayAsk r → p.allows r) (args : List Value) (site : Site) :
    (enterBuiltin b args site m).Obeys p :=
  Builtin.run_obeys hp hb _ _ _ (hp.frame m _ _ hm) fun _ _ hm => hm

/-- A call enters a function or raises an error. -/
theorem call_obeys (hp : p.Stable) (hx : x.Obeys p) (hm : p.keeps m) {f : Value}
    {args : List Value} {site : Site} {k : List Value → Mem → Step}
    (hk : ∀ vs m, p.keeps m → (k vs m).Obeys p)
    (hb : ∀ b vs, (resolve m 100 f args).toOption = some (.builtin b, vs) →
      ∀ r, b.MayAsk r → p.allows r) :
    (x.call f args site k m).Obeys p := by
  unfold call
  split
  · exact ⟨hm, hx⟩
  · rename_i g vs hg
    have inside : Machine.Obeys p
        { x with frames := .call (x.saved m) site k :: x.frames, depth := deeper x.depth site } :=
      ⟨hx.threads, List.forall_mem_cons.mpr ⟨hk, hx.frames⟩, hx.waiting⟩
    dsimp only
    split
    · exact ⟨hm, hx⟩
    · exact ⟨hm, hx⟩
    · exact ⟨hm, hx.of_threads hx.threads rfl rfl⟩
    · exact ⟨hm, hx.of_threads hx.threads rfl rfl⟩
    · split
      · exact ⟨enter_obeys hp hm _ _ _, inside⟩
      · exact ⟨enterBuiltin_obeys hp hm (hb _ vs (by rw [hg]; rfl)) _ _, inside⟩

/-- A call in place of the running function keeps the stack below it. -/
theorem callInstead_obeys (hp : p.Stable) (hx : x.Obeys p) (hm : p.keeps m) {s : Saved}
    {site at_ : Site} {k : List Value → Mem → Step} {rest : List Frame} {f : Value}
    {args : List Value} (hframes : x.frames = .call s site k :: rest)
    (hb : ∀ b vs, (resolve m 100 f args).toOption = some (.builtin b, vs) →
      ∀ r, b.MayAsk r → p.allows r) :
    (x.callInstead s site k rest f args at_ m).Obeys p := by
  have hf := hx.frames
  rw [hframes, List.forall_mem_cons] at hf
  unfold callInstead
  split
  · exact ⟨enter_obeys hp hm _ _ _, hx.threads, List.forall_mem_cons.mpr hf, hx.waiting⟩
  · exact call_obeys hp hx hm (fun _ _ hm => hm) hb

/-! ### Coroutines -/

theorem finish_obeys (hp : p.Stable) (hx : x.Obeys p) (hm : p.keeps m)
    (result : Except Value (List Value)) : (x.finish result m).Obeys p := by
  unfold finish
  split
  · exact ⟨hm, hx⟩
  · rename_i w ws hw
    have hws := hx.waiting
    rw [hw, List.forall_mem_cons] at hws
    obtain ⟨⟨hframes, hk⟩, hws⟩ := hws
    refine ⟨hk _ _ (hp.frame m _ _ hm), threads_set hx.threads _ _ ?_, hframes, hws⟩
    split
    · split
      · trivial
      · exact hx.frames
    · trivial

/-- After a coroutine was handed over to, its stack runs and the old one waits. -/
theorem handOver_obeys (hx : x.Obeys p) {stack : Stack} (hs : stack.Obeys p) (id : Nat)
    (closing : Bool) {k : Except Value (List Value) → Mem → Step}
    (hk : ∀ r m, p.keeps m → (k r m).Obeys p) : (x.handOver id stack closing k m).1.Obeys p := by
  refine ⟨threads_set hx.threads id .active trivial, hs, ?_⟩
  exact List.forall_mem_cons.mpr ⟨⟨hx.frames, hk⟩, hx.waiting⟩

theorem handOver_keeps (hp : p.Stable) (hm : p.keeps m) (id : Nat) (stack : Stack)
    (closing : Bool) (k : Except Value (List Value) → Mem → Step) :
    p.keeps (x.handOver id stack closing k m).2 :=
  hp.frame m _ _ hm

theorem resume_obeys (hp : p.Stable) (hx : x.Obeys p) (hm : p.keeps m) (id : Nat)
    (args : List Value) {k : Except Value (List Value) → Mem → Step}
    (hk : ∀ r m, p.keeps m → (k r m).Obeys p) : (x.resume id args k m).Obeys p := by
  have hfresh : freshStack.Obeys p := fun _ hf => nomatch hf
  unfold resume
  dsimp only
  split
  · exact ⟨hk _ _ hm, hx⟩
  · split
    · exact ⟨⟨handOver_keeps hp hm _ _ _ _, fun _ _ hm => hm⟩,
        handOver_obeys hx hfresh _ _ hk⟩
    · rename_i stack go ht
      have hthread : Thread.Obeys p (.suspended stack go) := hx.threads _ (Array.mem_of_getElem? ht)
      exact ⟨hthread.2 _ _ (handOver_keeps hp hm _ _ _ _), handOver_obeys hx hthread.1 _ _ hk⟩
    · exact ⟨hk _ _ hm, hx⟩
    · exact ⟨hk _ _ hm, hx⟩

theorem yield_obeys (hp : p.Stable) (hx : x.Obeys p) (hm : p.keeps m) (vs : List Value)
    {k : List Value → Mem → Step} (hk : ∀ vs m, p.keeps m → (k vs m).Obeys p) :
    (x.yield vs k m).Obeys p := by
  unfold yield
  split
  · exact ⟨hm, hx⟩
  · rename_i w ws hw
    have hws := hx.waiting
    rw [hw, List.forall_mem_cons] at hws
    obtain ⟨⟨hframes, hgo⟩, hws⟩ := hws
    split
    · exact ⟨hm, hx⟩
    · exact ⟨hgo _ _ (hp.frame m _ _ hm), threads_set hx.threads _ (.suspended _ _) ⟨hx.frames, hk⟩, hframes, hws⟩

theorem close_obeys (hp : p.Stable) (hx : x.Obeys p) (hm : p.keeps m) (id : Nat)
    {k : Except Value Unit → Mem → Step} (hk : ∀ r m, p.keeps m → (k r m).Obeys p) :
    (x.close id k m).Obeys p := by
  have htidy {stack : Stack} (hs : stack.Obeys p) :
      Stack.Obeys p { stack with frames := stack.frames.filter Frame.tidies } :=
    fun f hf => hs f ((List.mem_filter.mp hf).1)
  unfold close
  dsimp only
  split
  · rename_i stack go ht
    have hthread : Thread.Obeys p (.suspended stack go) := hx.threads _ (Array.mem_of_getElem? ht)
    refine ⟨handOver_keeps hp hm _ _ _ _, handOver_obeys hx (htidy hthread.1) _ _ fun r m hm => ?_⟩
    split <;> exact hk _ m hm
  · rename_i stack e ht
    have hthread : Thread.Obeys p (.failed stack e) := hx.threads _ (Array.mem_of_getElem? ht)
    refine ⟨handOver_keeps hp hm _ _ _ _, handOver_obeys hx (htidy hthread) _ _ fun r m hm => ?_⟩
    split <;> exact hk _ m hm
  · exact ⟨hk _ _ hm, hx.of_threads (threads_set hx.threads _ .finished trivial) rfl rfl⟩

/-! ### Errors -/

theorem raise_obeys (hp : p.Stable) (hx : x.Obeys p) (hm : p.keeps m) (e : Value) :
    (x.raise e m).Obeys p := by
  unfold raise
  split
  · split
    · split
      · exact ⟨hm, hx⟩
      · exact finish_obeys hp hx hm _
    · exact ⟨hm, hx⟩
  · exact ⟨hm, hx⟩
  · exact ⟨hm, hx⟩
  · exact ⟨⟨hm, fun _ _ hm => hm⟩, hx⟩
  · refine ⟨?_, hx⟩
    have htext : (withTraceback e).Obeys p := by
      unfold withTraceback
      split
      · exact .pure _
      · exact .bind (.text _ _) fun _ => .pure _
    exact htext _ m hm fun _ _ hm => hm

/-- The stack without its innermost frame. -/
theorem Obeys.tail (hx : x.Obeys p) {f : Frame} {rest : List Frame} (h : x.frames = f :: rest)
    (depth : Depth) : f.Obeys p ∧ Machine.Obeys p { x with frames := rest, depth := depth } := by
  have hf := hx.frames
  rw [h, List.forall_mem_cons] at hf
  exact ⟨hf.1, hx.threads, hf.2, hx.waiting⟩

theorem rethrow_obeys (hp : p.Stable) (hx : x.Obeys p) (hm : p.keeps m) (e : Value) :
    (x.rethrow e m).Obeys p := by
  unfold rethrow
  split
  · exact finish_obeys hp hx hm _
  · rename_i s site k rest h
    exact ⟨hp.frame m _ _ hm, (hx.tail h s.depth).2⟩
  · rename_i body k rest h
    exact ⟨hm, (hx.tail h x.depth).2⟩
  · rename_i depth how k rest h
    obtain ⟨hk, hrest⟩ := hx.tail h depth
    exact ⟨hk _ _ hm, hrest⟩

/-! ### Steps -/

theorem leave_obeys (hp : p.Stable) (hx : x.Obeys p) (hm : p.keeps m) {flow : Flow}
    (hb : ∀ b vs, x.callee? (.leave flow m) = some (.builtin b, vs) →
      ∀ r, b.MayAsk r → p.allows r) : (x.leave flow m).Obeys p := by
  unfold leave
  split
  · exact finish_obeys hp hx hm _
  · rename_i f args site h
    refine call_obeys hp hx hm (fun _ _ hm => hm) fun b vs hg => hb b vs ?_
    rw [callee?, h]
    exact hg
  · exact finish_obeys hp hx hm _
  · rename_i s site k rest f args at_ h
    refine callInstead_obeys hp hx hm h fun b vs hg => hb b vs ?_
    rw [callee?, h]
    exact hg
  · rename_i s site k rest h _
    obtain ⟨hk, hrest⟩ := hx.tail h s.depth
    exact ⟨hk _ _ (hp.frame m _ _ hm), hrest⟩
  · rename_i body k rest h
    obtain ⟨hk, hrest⟩ := hx.tail h x.depth
    exact ⟨hk.2 _ _ hm, hrest⟩
  · rename_i depth how k rest h
    obtain ⟨hk, hrest⟩ := hx.tail h depth
    exact ⟨hk _ _ hm, hrest⟩

/-- An answer of the machine changes at most the coroutines, by a new one. -/
theorem inquire_obeys (hx : x.Obeys p) (q : Inquiry) : (x.inquire q).2.Obeys p := by
  cases q with
  | spawn f =>
    refine hx.of_threads ?_ rfl rfl
    intro t ht
    obtain ht | rfl := Array.mem_push.mp ht
    · exact hx.threads t ht
    · trivial
  | spot | status | running | canYield => exact hx

/-- One step of a machine that obeys a policy, at a step that does, leads to the same again, if the
policy allows what the built-in function asks that the step enters. -/
theorem advance_obeys (hp : p.Stable) (hx : x.Obeys p) {s : Step} (hs : s.Obeys p)
    (hb : ∀ b vs, x.callee? s = some (.builtin b, vs) → ∀ r, b.MayAsk r → p.allows r) :
    (x.advance s).Obeys p := by
  cases s with
  | leave flow m => exact leave_obeys hp hx hs hb
  | raise e m => exact raise_obeys hp hx hs e
  | rethrow e m => exact rethrow_obeys hp hx hs e
  | call f args site k m => exact call_obeys hp hx hs.1 hs.2 hb
  | loop start body k m =>
    obtain ⟨hm, hbody, hk⟩ := hs
    exact ⟨hbody _ _ hm, hx.threads, List.forall_mem_cons.mpr ⟨⟨hbody, hk⟩, hx.frames⟩, hx.waiting⟩
  | again state m =>
    unfold advance
    dsimp only
    split
    · rename_i body k rest h
      have hf := hx.frames
      rw [h, List.forall_mem_cons] at hf
      exact ⟨hf.1.1 _ _ hs, hx⟩
    · exact ⟨hs, hx⟩
  | protect how body k m =>
    obtain ⟨hm, hbody, hk⟩ := hs
    exact ⟨hbody _ hm, hx.threads, List.forall_mem_cons.mpr ⟨hk, hx.frames⟩, hx.waiting⟩
  | ask r k m =>
    obtain ⟨hm, hr, hk⟩ := hs
    exact ⟨hm, hr, hk, hx⟩
  | inquire q k m =>
    obtain ⟨hm, hk⟩ := hs
    exact ⟨hk _ _ hm, inquire_obeys hx q⟩
  | resume thread args k m => exact resume_obeys hp hx hs.1 thread args hs.2
  | yield vs k m => exact yield_obeys hp hx hs.1 vs hs.2
  | close thread k m => exact close_obeys hp hx hs.1 thread hs.2

end Machine

end LuaSession.Lua
