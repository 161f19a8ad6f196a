import LuaSession.Proofs.Lua.Policy.Run

/-!
# The events of a run

What a run does in order, as far as it matters outside: the built-in functions that it calls and the
requests that it makes. The requests say what becomes of output, and the calls where it comes from.

* `runFrom_sink`, `runFrom_printed`: the sink gets what is written, the process what is spilled.
* `eventsFrom_announced`: a request comes after the call of a function that may make it.
-/

namespace LuaSession.Lua

/-- The call of a built-in function, or a request. -/
inductive Event
  | called (b : Builtin)
  | asked (r : Request)

/-- The event of a step that calls a built-in function. -/
def Machine.entered (x : Machine) (s : Step) : List Event :=
  match x.callee? s with
  | some (.builtin b, _) => [.called b]
  | _ => []

variable {W : Type}

/-- The events of a run. -/
def eventsFrom (o : Outside (StateM W)) (context : String) :
    (fuel : Nat) → Sink → Machine → Step → W → List Event
  | 0, _, _, _, _ => []
  | fuel + 1, sink, x, s, w =>
    x.entered s ++
      match x.advance s with
      | .step s x => eventsFrom o context fuel sink x s w
      | .done .. => []
      | .ask r k mem x =>
        .asked r ::
          match r.answer o context sink w with
          | (.ok (reply, sink), w) => eventsFrom o context fuel sink x (k reply mem) w
          | (.error _, _) => []

/-- One step of a run over a world. -/
theorem runFrom_succ (o : Outside (StateM W)) (context : String) (fuel : Nat) (sink : Sink)
    (x : Machine) (s : Step) (w : W) :
    runFrom o context (fuel + 1) sink x s w =
      match x.advance s with
      | .step s x => runFrom o context fuel sink x s w
      | .done result mem x => (.ok ⟨result, mem, x.threads, sink⟩, w)
      | .ask r k mem x =>
        match r.answer o context sink w with
        | (.ok (reply, sink), w) => runFrom o context fuel sink x (k reply mem) w
        | (.error h, w) => (.error h, w) := by
  rw [runFrom]
  rcases x.advance s with ⟨t, y⟩ | ⟨r, k, mem, y⟩ | ⟨result, mem, y⟩
  · rfl
  · dsimp only
    change StateT.bind (r.answer o context sink) _ w = _
    unfold StateT.bind
    rcases r.answer o context sink w with ⟨h | ⟨reply, sink'⟩, w'⟩
    · rfl
    · rfl
  · rfl

/-! ### Output -/

namespace Event

/-- What an event adds to captured output. -/
def text (channel : Channel) : Event → String
  | .asked (.write own text) => if own = channel then text else ""
  | _ => ""

/-- What an event adds to the output of the process. -/
def spill : Event → List UInt8
  | .asked (.spill .out content) => content.data.toList
  | _ => []

/-- What an event prints, wherever it goes. -/
def output : Event → String
  | .asked (.write .out text) => text
  | .asked (.spill .out content) => Text.Utf8.decodeBytes content
  | _ => ""

/-- What an event does to the sink. -/
def pour (s : Sink) : Event → Sink
  | .asked (.write channel text) => s.write channel text
  | _ => s

end Event

/-- Texts one after the other. -/
def joined (f : Event → String) : List Event → String
  | [] => ""
  | e :: es => f e ++ joined f es

/-- What events add to captured output. -/
def written (channel : Channel) (es : List Event) : String := joined (Event.text channel) es

/-- What events add to the output of the process. -/
def spilled (es : List Event) : List UInt8 := es.flatMap Event.spill

/-- What events print, wherever it goes. -/
def output (es : List Event) : String := joined Event.output es

theorem spilled_append (es es' : List Event) : spilled (es ++ es') = spilled es ++ spilled es' :=
  List.flatMap_append

theorem spilled_entered (x : Machine) (s : Step) : spilled (x.entered s) = [] := by
  unfold Machine.entered
  split <;> rfl

theorem pour_entered (sink : Sink) (x : Machine) (s : Step) :
    (x.entered s).foldl Event.pour sink = sink := by
  unfold Machine.entered
  split <;> rfl

/-- An active capture gets the texts behind those that it has. -/
theorem pour_active (es : List Event) (c : Captured) :
    es.foldl Event.pour ⟨some c⟩ = ⟨some ⟨c.out ++ written .out es, c.err ++ written .err es⟩⟩ := by
  induction es generalizing c with
  | nil => simp [written, joined]
  | cons e es ih =>
    rw [List.foldl_cons]
    have hquiet (h : Event.pour ⟨some c⟩ e = ⟨some c⟩) (ht : ∀ channel, e.text channel = "") :
        es.foldl Event.pour (Event.pour ⟨some c⟩ e) =
          ⟨some ⟨c.out ++ written .out (e :: es), c.err ++ written .err (e :: es)⟩⟩ := by
      rw [h, ih]
      simp [written, joined, ht]
    cases e with
    | called b => exact hquiet rfl fun _ => rfl
    | asked r =>
      cases r with
      | write channel text =>
        change es.foldl Event.pour ⟨some (c.append channel text)⟩ = _
        rw [ih]
        cases channel <;> simp [written, joined, Event.text, Captured.append, String.append_assoc]
      | spill | ask | context | log | now | clock | variable_ | exit =>
        exact hquiet rfl fun _ => rfl

/-- Where nothing is spilled, all that is printed is written. -/
theorem output_of_spilled {es : List Event} (h : spilled es = []) : output es = written .out es := by
  induction es with
  | nil => rfl
  | cons e es ih =>
    obtain ⟨he, hes⟩ := List.append_eq_nil_iff.mp h
    have hevent : e.output = e.text .out := by
      cases e with
      | called b => rfl
      | asked r =>
        cases r with
        | write channel text => cases channel <;> rfl
        | spill channel content =>
          cases channel with
          | out =>
            have hempty : content = ByteArray.empty := ByteArray.ext (Array.toList_eq_nil_iff.mp he)
            rw [hempty]
            decide +kernel
          | err => rfl
        | ask | context | log | now | clock | variable_ | exit => rfl
    change e.output ++ output es = e.text .out ++ written .out es
    rw [hevent, ih hes]

/-- An outside in which `printed` is what programs put on the output of the process. Lines of
protocol are not among it. -/
structure Outside.Prints (o : Outside (StateM W)) (printed : W → List UInt8) : Prop where
  now : ∀ w, printed (o.now w).2 = printed w
  clock : ∀ w, printed (o.clock w).2 = printed w
  stopwatch : ∀ w, printed (o.stopwatch w).2 = printed w
  variable_ : ∀ name w, printed (o.variable_ name w).2 = printed w
  log : ∀ e w, printed (o.log e w).2 = printed w
  ask : ∀ method params w, printed (o.ask method params w).2 = printed w
  spill : ∀ channel content w, printed (o.spill channel content w).2 =
    printed w ++ (Event.asked (.spill channel content)).spill

variable {o : Outside (StateM W)} {printed : W → List UInt8}

theorem answer_printed (ho : o.Prints printed) (context : String) (sink : Sink) (r : Request)
    (w : W) :
    printed (r.answer o context sink w).2 = printed w ++ (Event.asked r).spill := by
  cases r with
  | spill channel content => exact ho.spill channel content w
  | write | context | exit => exact (List.append_nil _).symm
  | ask method params => exact (ho.ask method params w).trans (List.append_nil _).symm
  | log e => exact (ho.log e w).trans (List.append_nil _).symm
  | now => exact (ho.now w).trans (List.append_nil _).symm
  | clock => exact (ho.clock w).trans (List.append_nil _).symm
  | variable_ name => exact (ho.variable_ name w).trans (List.append_nil _).symm

theorem answer_sink {context : String} {sink sink' : Sink} {r : Request} {reply : r.Reply}
    {w w' : W} (h : r.answer o context sink w = (.ok (reply, sink'), w')) :
    sink' = Event.pour sink (.asked r) := by
  cases r with
  | exit => cases h
  | write | spill | ask | context | log | now | clock | variable_ =>
    cases h
    rfl

/-- The output of the process grows by what is spilled. -/
theorem runFrom_printed (ho : o.Prints printed) (context : String) (fuel : Nat) (sink : Sink)
    (x : Machine) (s : Step) (w : W) :
    printed (runFrom o context fuel sink x s w).2 =
      printed w ++ spilled (eventsFrom o context fuel sink x s w) := by
  induction fuel generalizing sink x s w with
  | zero => exact (List.append_nil _).symm
  | succ fuel ih =>
    rw [runFrom_succ, eventsFrom, spilled_append, spilled_entered, List.nil_append]
    rcases x.advance s with ⟨t, y⟩ | ⟨r, k, mem, y⟩ | ⟨result, mem, y⟩
    · exact ih sink y t w
    · have hanswer := answer_printed ho context sink r w
      dsimp only
      rw [spilled, List.flatMap_cons, ← List.append_assoc, ← hanswer]
      rcases r.answer o context sink w with ⟨h | ⟨reply, sink'⟩, w'⟩
      · exact (List.append_nil _).symm
      · exact ih sink' y (k reply mem) w'
    · exact (List.append_nil _).symm

/-- The sink in the end is the first one with what was written. -/
theorem runFrom_sink {context : String} {fuel : Nat} {sink : Sink} {x : Machine} {s : Step} {w : W}
    {ran : Ran} (h : (runFrom o context fuel sink x s w).1 = .ok ran) :
    ran.sink = (eventsFrom o context fuel sink x s w).foldl Event.pour sink := by
  induction fuel generalizing sink x s w with
  | zero => cases h
  | succ fuel ih =>
    rw [eventsFrom, List.foldl_append, pour_entered]
    rw [runFrom_succ] at h
    rcases hnext : x.advance s with ⟨t, y⟩ | ⟨r, k, mem, y⟩ | ⟨result, mem, y⟩
    · rw [hnext] at h
      exact ih h
    · rw [hnext] at h
      rcases hr : r.answer o context sink w with ⟨e | ⟨reply, sink'⟩, w'⟩
      · simp only [hr] at h
        cases h
      · simp only [hr] at h ⊢
        rw [List.foldl_cons, ← answer_sink hr]
        exact ih h
    · rw [hnext] at h
      cases h
      rfl

/-! ### Where requests come from -/

/-- None of the events is the call of a function that may make the request. -/
def Silent (r : Request) (es : List Event) : Prop :=
  ∀ b, .called b ∈ es → ¬ b.MayAsk r

/-- Wherever the request is made, a function that may make it was called before. -/
def Announced (r : Request) (es : List Event) : Prop :=
  ∀ before after, es = before ++ .asked r :: after → ∃ b, .called b ∈ before ∧ b.MayAsk r

variable {r : Request} {es es' : List Event}

theorem Silent.append : Silent r (es ++ es') ↔ Silent r es ∧ Silent r es' := by
  simp only [Silent, List.mem_append]
  grind

theorem Silent.asked {q : Request} : Silent r (.asked q :: es) ↔ Silent r es := by
  simp [Silent]

namespace Announced

theorem nil : Announced r [] := by
  intro before after h
  simp at h

theorem entered (x : Machine) (s : Step) : Announced r (x.entered s) := by
  intro before after h
  unfold Machine.entered at h
  split at h
  · rcases before with _ | ⟨e, _ | _⟩ <;> simp at h
  · simp at h

/-- Later events matter only if no function was called that may make the request. -/
theorem append (h : Announced r es) (h' : Silent r es → Announced r es') :
    Announced r (es ++ es') := by
  intro before after heq
  by_cases hes : Silent r es
  · obtain ⟨more, hbefore, hafter⟩ | ⟨more, hbefore, hafter⟩ := List.append_eq_append_iff.mp heq
    · obtain ⟨b, hb, hr⟩ := h' hes more after hafter
      exact ⟨b, by simp [hbefore, hb], hr⟩
    · rcases more with _ | ⟨e, more⟩
      · obtain ⟨b, hb, hr⟩ := h' hes [] after (by simpa using hafter.symm)
        cases hb
      · obtain ⟨rfl, -⟩ := List.cons_eq_cons.mp hafter
        exact h before more hbefore
  · obtain ⟨b, hb, hr⟩ : ∃ b, .called b ∈ es ∧ b.MayAsk r := by
      simpa [Silent] using hes
    obtain ⟨more, hbefore, hafter⟩ | ⟨more, hbefore, hafter⟩ := List.append_eq_append_iff.mp heq
    · exact ⟨b, by simp [hbefore, hb], hr⟩
    · rcases more with _ | ⟨e, more⟩
      · rw [List.append_nil] at hbefore
        exact ⟨b, hbefore ▸ hb, hr⟩
      · obtain ⟨rfl, -⟩ := List.cons_eq_cons.mp hafter
        exact h before more hbefore

/-- Another request in front. -/
theorem asked {q : Request} (hq : q ≠ r) (h : Announced r es) : Announced r (.asked q :: es) := by
  have hone : Announced r [.asked q] := by
    intro before after heq
    rcases before with _ | ⟨e, _ | _⟩
    · cases heq
      exact absurd rfl hq
    · simp at heq
    · simp at heq
  exact hone.append fun _ => h

end Announced

/-- The policy that forbids one request. -/
def Policy.without (r : Request) : Policy := .asking (· ≠ r)

/-- A step that calls no function that may make the request keeps to the policy without it. -/
theorem Machine.advance_without {x : Machine} {s : Step} (hx : x.Obeys (.without r))
    (hs : s.Obeys (.without r)) (h : Silent r (x.entered s)) :
    (x.advance s).Obeys (.without r) := by
  refine advance_obeys (Policy.stable_asking _) hx hs fun b vs hb q hq => ?_
  rintro rfl
  refine h b ?_ hq
  rw [entered, hb]
  exact List.mem_singleton_self _

/-- In a run a request is announced; and if it could not be made, it cannot be made afterwards. The
induction is on the number of steps. -/
theorem eventsFrom_announced (o : Outside (StateM W)) (context : String) (fuel : Nat) (sink : Sink)
    {x : Machine} {s : Step} (w : W) (hx : x.Obeys (.without r)) (hs : s.Obeys (.without r)) :
    Announced r (eventsFrom o context fuel sink x s w) ∧
      (Silent r (eventsFrom o context fuel sink x s w) →
        IfOk (Ran.Obeys (.without r)) (runFrom o context fuel sink x s w).1) := by
  induction fuel generalizing sink x s w with
  | zero => exact ⟨.nil, fun _ => trivial⟩
  | succ fuel ih =>
    have hnext := Machine.advance_without hx hs
    rw [eventsFrom, runFrom_succ, Silent.append]
    generalize x.advance s = next at hnext
    rcases next with ⟨t, y⟩ | ⟨q, k, mem, y⟩ | ⟨result, mem, y⟩
    · have hrest (h : Silent r (x.entered s)) := ih sink w (hnext h).2 (hnext h).1
      exact ⟨.append (.entered x s) fun h => (hrest h).1, fun h => (hrest h.1).2 h.2⟩
    · dsimp only
      rw [Silent.asked]
      rcases q.answer o context sink w with ⟨e | ⟨reply, sink'⟩, w'⟩
      · refine ⟨.append (.entered x s) fun h => ?_, fun _ => trivial⟩
        exact .asked (hnext h).2.1 .nil
      · have hrest (h : Silent r (x.entered s)) :=
          ih sink' w' (hnext h).2.2.2 ((hnext h).2.2.1 reply mem (hnext h).1)
        refine ⟨.append (.entered x s) fun h => ?_, fun h => (hrest h.1).2 h.2⟩
        exact .asked (hnext h).2.1 (hrest h).1
    · refine ⟨.append (.entered x s) fun _ => .nil, fun h => ?_⟩
      exact ⟨(hnext h.1).1, (hnext h.1).2.threads⟩

end LuaSession.Lua
