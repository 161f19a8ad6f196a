import LuaSession.Capture

/-!
# Captures in use

What becomes of a sink and the captures on it, call after call. A capture may end at any time; where
each ends before the one around it, the captures are scopes, and each gives the texts that were written
in it and in no scope inside it.

* `run_nested`: what a well-nested use does, whatever went before it.
* `scope_captures`: what a scope gives, and what it leaves.
-/

namespace LuaSession.Sink

/-! ### Calls -/

/-- What is done with a sink. A capture is ended by its place among those that have not ended, the
newest one first. -/
inductive Call
  | begin
  | write (channel : Channel) (text : String)
  | finish (place : Nat)
  | drop (place : Nat)
  deriving DecidableEq, Repr

/-- A sink in use: the guards of the captures that have not ended, the newest one first, and what the
finished ones gave, in the order in which they ended. -/
structure Use where
  sink : Sink := {}
  guards : List Guard := []
  results : List Captured := []
  deriving DecidableEq, Repr

namespace Use

/-- Does what a call says; there is nothing to end at a place where no guard is. -/
def step (u : Use) : Call → Use
  | .begin =>
    let (guard, sink) := u.sink.capture
    { u with sink, guards := guard :: u.guards }
  | .write channel text => { u with sink := u.sink.write channel text }
  | .finish place =>
    match u.guards[place]? with
    | none => u
    | some guard =>
      let (captured, sink) := u.sink.finish guard
      ⟨sink, u.guards.eraseIdx place, u.results ++ [captured]⟩
  | .drop place =>
    match u.guards[place]? with
    | none => u
    | some guard => { u with sink := u.sink.discard guard, guards := u.guards.eraseIdx place }

/-- Does what calls say, one after the other. -/
def run (u : Use) (calls : List Call) : Use := calls.foldl step u

theorem run_cons (u : Use) (c : Call) (calls : List Call) :
    u.run (c :: calls) = (u.step c).run calls := rfl

theorem run_append (u : Use) (calls more : List Call) :
    u.run (calls ++ more) = (u.run calls).run more := List.foldl_append

end Use

/-! ### Scopes -/

/-- How a scope ends. -/
inductive Ending
  | finish
  | drop
  deriving DecidableEq, Repr

/-- A well-nested use: texts and scopes one after the other, and in each scope a use again. -/
inductive Nested
  | done
  | write (channel : Channel) (text : String) (rest : Nested)
  | scope (body : Nested) (ending : Ending) (rest : Nested)
  deriving DecidableEq, Repr

/-- The call that ends the newest capture. -/
def Ending.call : Ending → Call
  | .finish => .finish 0
  | .drop => .drop 0

namespace Nested

/-- The calls of a use. -/
def calls : Nested → List Call
  | done => []
  | write channel text rest => .write channel text :: rest.calls
  | scope body ending rest => .begin :: (body.calls ++ ending.call :: rest.calls)

/-- The texts that are written to a stream outside the scopes of a use, one after the other. -/
def texts (channel : Channel) : Nested → String
  | done => ""
  | write own text rest => (if own = channel then text else "") ++ rest.texts channel
  | scope _ _ rest => rest.texts channel

/-- The texts outside the scopes of a use, by streams. -/
def direct (n : Nested) : Captured := ⟨n.texts .out, n.texts .err⟩

/-- What the finished scopes of a use give, in the order in which they end. -/
def results : Nested → List Captured
  | done => []
  | write _ _ rest => rest.results
  | scope body .finish rest => body.results ++ body.direct :: rest.results
  | scope body .drop rest => body.results ++ rest.results

/-- The scopes of a use without the texts outside of them. -/
def scopes : Nested → Nested
  | done => done
  | write _ _ rest => rest.scopes
  | scope body ending rest => scope body ending rest.scopes

theorem results_scopes (n : Nested) : n.scopes.results = n.results := by
  induction n with
  | done => rfl
  | write channel text rest ih => exact ih
  | scope body ending rest _ ih => cases ending <;> simp [scopes, results, ih]

end Nested

/-- A sink to which the texts outside the scopes of a use were written. -/
def written (s : Sink) (n : Nested) : Sink :=
  ⟨s.active.map fun c => ⟨c.out ++ n.texts .out, c.err ++ n.texts .err⟩⟩

theorem written_done (s : Sink) : s.written .done = s := by
  rcases s with ⟨_ | c⟩ <;> simp [written, Nested.texts]

theorem written_write (s : Sink) (channel : Channel) (text : String) (rest : Nested) :
    (s.write channel text).written rest = s.written (.write channel text rest) := by
  rcases s with ⟨_ | c⟩
  · rfl
  · cases channel <;> simp [written, write, Nested.texts, Captured.append, String.append_assoc]

/-- A new capture to which the texts of a use were written has just these. -/
theorem written_capture (s : Sink) (n : Nested) : s.capture.2.written n = ⟨some n.direct⟩ := by
  simp [capture, written, Nested.direct]

/-- A scope ends with what was active before it, and if it is finished it gives its own texts. -/
theorem Use.step_ending (s : Sink) (body : Nested) (guards : List Guard) (results : List Captured)
    (ending : Ending) :
    (Use.mk (s.capture.2.written body) (s.capture.1 :: guards) results).step ending.call =
      ⟨s, guards, results ++ match ending with
        | .finish => [body.direct]
        | .drop => []⟩ := by
  rw [written_capture]
  cases ending with
  | finish => simp [step, Ending.call, finish]
  | drop => simp [step, Ending.call, discard]

/-- A well-nested use ends no capture that has begun before it. The induction is on the use, for any
sink and any guards, since a scope goes on where what is before it has led. -/
theorem Use.run_nested (u : Use) (n : Nested) :
    u.run n.calls = ⟨u.sink.written n, u.guards, u.results ++ n.results⟩ := by
  induction n generalizing u with
  | done => simp [Nested.calls, Nested.results, run, written_done]
  | write channel text rest ih =>
    rw [Nested.calls, run_cons, ih]
    simp only [step, written_write, Nested.results]
  | scope body ending rest hbody hrest =>
    rw [Nested.calls, run_cons, run_append, hbody, run_cons]
    change ((Use.mk (u.sink.capture.2.written body) (u.sink.capture.1 :: u.guards)
      (u.results ++ body.results)).step ending.call).run rest.calls = _
    rw [step_ending, hrest]
    cases ending with
    | finish => simp [Nested.results, written, Nested.texts]
    | drop => simp [Nested.results, written, Nested.texts]

/-- Whatever was done before: a scope leaves the sink as it was and the captures around it waiting. If
it is finished it gives, by streams, the texts that were written in it outside the scopes in it, in
their order; those scopes have given theirs before. A text outside of every scope is in no result. -/
theorem scope_captures :
    (∀ (past : List Call) (body : Nested) (ending : Ending),
      let before := Use.run {} past
      let after := Use.run {} (past ++ (Nested.scope body ending .done).calls)
      after.sink = before.sink ∧ after.guards = before.guards ∧
      after.results = before.results ++ body.results ++ match ending with
        | .finish => [body.direct]
        | .drop => []) ∧
    ∀ n : Nested, (Use.run {} n.calls).sink = {} ∧ (Use.run {} n.calls).results = n.results ∧
      (Use.run {} n.scopes.calls).results = (Use.run {} n.calls).results := by
  refine ⟨fun past body ending => ?_, fun n => ?_⟩
  · rw [Use.run_append, Use.run_nested]
    refine ⟨?_, rfl, ?_⟩
    · exact written_done _
    · cases ending with
      | finish => simp [Nested.results]
      | drop => simp [Nested.results]
  · rw [Use.run_nested, Use.run_nested, Nested.results_scopes]
    exact ⟨rfl, List.nil_append _, rfl⟩

/-- A scope with texts around another one, which is dropped. -/
example : (Use.run {} (Nested.scope (.write .out "a" (.scope (.write .out "b" .done) .drop
    (.write .err "c" (.write .out "d" .done)))) .finish .done).calls).results = [⟨"ad", "c"⟩] := by
  decide

end LuaSession.Sink
