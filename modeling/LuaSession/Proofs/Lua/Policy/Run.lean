import LuaSession.Lua.Run
import LuaSession.Proofs.Correspondence
import LuaSession.Proofs.Lua.Policy.Machine

/-!
# Runs keep to policies and correspond

A run needs the outside only for the requests of its steps. Over two outsides that correspond for the
requests that a policy allows, the runs of a machine that obeys the policy correspond.

* `runFrom_holds`: from any step on; what is left in the end obeys the policy again.
* `runTask_holds`: for a task.
-/

namespace LuaSession.Lua

variable {m n : Type → Type} [Monad m] [Monad n] {p : Policy}

/-- The policy is stable and allows what the built-in functions may ask. -/
structure Policy.Liberal (p : Policy) : Prop extends p.Stable where
  allows : ∀ (b : Builtin) (r : Request), b.MayAsk r → p.allows r

/-- Two outsides correspond for the requests that a policy allows. -/
structure Outside.Corresponds (R : Correspondence m n) (p : Policy) (o : Outside m)
    (o' : Outside n) : Prop where
  now : R.holds (fun _ => True) o.now o'.now
  clock : R.holds (fun _ => True) o.clock o'.clock
  stopwatch : R.holds (fun _ => True) o.stopwatch o'.stopwatch
  variable_ : ∀ name, R.holds (fun _ => True) (o.variable_ name) (o'.variable_ name)
  log : ∀ e, R.holds (fun _ => True) (o.log e) (o'.log e)
  spill : ∀ channel content, p.allows (.spill channel content) →
    R.holds (fun _ => True) (o.spill channel content) (o'.spill channel content)
  ask : ∀ method params, p.allows (.ask method params) →
    R.holds (fun _ => True) (o.ask method params) (o'.ask method params)

/-- What a run leaves obeys the policy. -/
structure Ran.Obeys (p : Policy) (r : Ran) : Prop where
  mem : p.keeps r.mem
  threads : ∀ t ∈ r.threads, t.Obeys p

/-- A property of the result if there is one. -/
def IfOk {ε α : Type} (P : α → Prop) : Except ε α → Prop
  | .ok a => P a
  | .error _ => True

variable {R : Correspondence m n} {o : Outside m} {o' : Outside n}

theorem answer_holds (ho : o.Corresponds R p o') {r : Request} (hr : p.allows r)
    (context : String) (sink : Sink) :
    R.holds (fun _ => True) (r.answer o context sink) (r.answer o' context sink) := by
  cases r with
  | write | context | exit => exact R.pure trivial
  | spill channel content => exact R.bind_any (ho.spill channel content hr) fun _ => R.pure trivial
  | ask method params => exact R.bind_any (ho.ask method params hr) fun _ => R.pure trivial
  | log e => exact R.bind_any (ho.log e) fun _ => R.pure trivial
  | now => exact R.bind_any ho.now fun _ => R.pure trivial
  | clock => exact R.bind_any ho.clock fun _ => R.pure trivial
  | variable_ name => exact R.bind_any (ho.variable_ name) fun _ => R.pure trivial

/-- The induction is on the number of steps; the invariant is that machine and step obey the policy. -/
theorem runFrom_holds (hp : p.Liberal) (ho : o.Corresponds R p o') (context : String) (fuel : Nat)
    (sink : Sink) {x : Machine} {s : Step} (hx : x.Obeys p) (hs : s.Obeys p) :
    R.holds (IfOk (Ran.Obeys p)) (runFrom o context fuel sink x s)
      (runFrom o' context fuel sink x s) := by
  induction fuel generalizing sink x s with
  | zero => exact R.pure trivial
  | succ fuel ih =>
    have h := Machine.advance_obeys hp.toStable hx hs fun b _ _ r => hp.allows b r
    unfold runFrom
    split
    · rename_i t y hnext
      rw [hnext] at h
      exact ih sink h.2 h.1
    · rename_i result mem y hnext
      rw [hnext] at h
      exact R.pure ⟨h.1, h.2.threads⟩
    · rename_i r k mem y hnext
      rw [hnext] at h
      obtain ⟨hm, hr, hk, hy⟩ := h
      refine R.bind_any (answer_holds ho hr context sink) fun reply => ?_
      split
      · exact R.pure trivial
      · exact ih _ hy (hk _ _ hm)

theorem Task.first_obeys {t : Task (List Value)} (h : t.Obeys p) {mem : Mem} (hm : p.keeps mem) :
    (t.first mem).Obeys p := by
  refine Task.Obeys.bind (.protectValues h) (fun r => ?_) _ _ hm fun _ _ hm => hm
  split
  · exact .pure _
  · exact .rethrow _

theorem runTask_holds (hp : p.Liberal) (ho : o.Corresponds R p o') (context : String) (fuel : Nat)
    (sink : Sink) {threads : Array Thread} (ht : ∀ t ∈ threads, t.Obeys p)
    {t : Task (List Value)} (h : t.Obeys p) {mem : Mem} (hm : p.keeps mem) :
    R.holds (IfOk (Ran.Obeys p)) (runTask o context fuel sink threads t mem)
      (runTask o' context fuel sink threads t mem) :=
  runFrom_holds hp ho context fuel sink ⟨ht, List.forall_mem_nil _, List.forall_mem_nil _⟩
    (Task.first_obeys h hm)

end LuaSession.Lua
