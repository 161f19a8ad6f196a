import LuaSession.Proofs.Lua.Events
import LuaSession.Proofs.Session.Policy

/-!
# The events of a session

What is asked of a session runs at most one task, and the events of that task are all that can be seen
of it from outside.

* `Tells`: what the events tell of something that is done with a session.
* `execute_tells`, `lookup_tells`: it holds of running a program and of reading a binding.
* `execute_out`: what is captured is what the events write.
-/

namespace LuaSession

open LuaSession.Lua

variable {W : Type} {o : Outside (StateM W)}

namespace Session

/-! ### Events -/

/-- The events of a task in a session. -/
def taskEvents (o : Outside (StateM W)) (fuel : Nat) (s : Session) (t : Lua.Task (List Value))
    (w : W) : List Event :=
  eventsFrom o s.text fuel s.sink { threads := s.threads } (t.first s.mem) w

/-- The events of a program. -/
def evaluateEvents (o : Outside (StateM W)) (fuel : Nat) (s : Session) (code : String) (w : W) :
    List Event :=
  match BasicFn.compile (bytes code) chunkSource (bytes "bt") with
  | .error _ => []
  | .ok f => s.taskEvents o fuel (s.chunk f) w

/-- The events of a program whose output is captured. -/
def executeEvents (o : Outside (StateM W)) (fuel : Nat) (s : Session) (code : String) (w : W) :
    List Event :=
  evaluateEvents o fuel { s with sink := s.sink.capture.2 } code
    (o.log ⟨.debug, target, "executing"⟩ w).2

/-- The events of reading a value. -/
def presentEvents (o : Outside (StateM W)) (fuel : Nat) (s : Session) (v : Value) (w : W) :
    List Event :=
  match s.mem.json? v with
  | some _ => []
  | none => s.taskEvents o fuel (textOf v) w

/-- The events of reading a binding. -/
def lookupEvents (o : Outside (StateM W)) (fuel : Nat) (s : Session) (name : String) (w : W) :
    List Event :=
  match s.mem.rawGet s.bindings (.text name) with
  | .nil => []
  | v => s.presentEvents o fuel v w

/-! ### What they tell -/

/-- Something was done with a session in a world. The events are all that was spilled, each request was
announced by a call, and the bindings are where they were. -/
structure Tells {α : Type} (o : Outside (StateM W)) (s : Session) (es : List Event) (w : W)
    (p : Except Halt (α × Session) × W) : Prop where
  printed : ∀ {printed}, o.Prints printed → printed p.2 = printed w ++ spilled es
  announced : ∀ {r}, s.Obeys (.without r) →
    Announced r es ∧ (Silent r es → IfOk (fun x => x.2.Obeys (.without r)) p.1)
  bindings : IfOk (fun x => x.2.bindings = s.bindings) p.1

variable {α : Type} {s s' : Session} {w : W}

/-- Without events there is only the session that is left. -/
theorem Tells.quiet {p : Except Halt (α × Session) × W}
    (hw : ∀ {printed}, o.Prints printed → printed p.2 = printed w)
    (hs : ∀ {r}, s.Obeys (.without r) → IfOk (fun x => x.2.Obeys (.without r)) p.1)
    (hb : IfOk (fun x => x.2.bindings = s.bindings) p.1) : Tells o s [] w p :=
  ⟨fun ho => (hw ho).trans (List.append_nil _).symm, fun h => ⟨.nil, fun _ => hs h⟩, hb⟩

/-- Worlds with the same output of programs. -/
theorem Tells.of_worlds {es : List Event} {r : Except Halt (α × Session)} {v w v' w' : W}
    (h : Tells o s es v (r, v')) (hw : ∀ {printed}, o.Prints printed → printed v = printed w)
    (hw' : ∀ {printed}, o.Prints printed → printed w' = printed v') : Tells o s es w (r, w') :=
  ⟨fun ho => by rw [hw' ho, h.printed ho, hw ho], h.announced, h.bindings⟩

/-- The session stays as it is left, whatever is made of the answer. -/
theorem Tells.next {β : Type} {es : List Event} {x : StateM W (Except Halt (α × Session))}
    {f : Except Halt (α × Session) → StateM W (Except Halt (β × Session))}
    (h : Tells o s es w (x w)) (herror : ∀ e, f (.error e) = pure (.error e))
    (hok : ∀ a s, ∃ b, f (.ok (a, s)) = pure (.ok (b, s))) : Tells o s es w ((x >>= f) w) := by
  simp only [Bind.bind, StateT.bind]
  rcases hx : x w with ⟨e | ⟨a, s'⟩, w'⟩
  · rw [hx] at h
    dsimp only
    rw [herror]
    exact ⟨h.printed, fun hs => ⟨(h.announced hs).1, fun _ => trivial⟩, trivial⟩
  · rw [hx] at h
    obtain ⟨b, hb⟩ := hok a s'
    dsimp only
    rw [hb]
    exact ⟨h.printed, h.announced, h.bindings⟩

theorem run_eq (o : Outside (StateM W)) (fuel : Nat) (s : Session) (t : Lua.Task (List Value))
    (w : W) :
    s.run o fuel t w =
      match runFrom o s.text fuel s.sink { threads := s.threads } (t.first s.mem) w with
      | (.error h, w) => (.error h, w)
      | (.ok r, w) =>
        (.ok (r.result, { s with mem := r.mem.atRest, threads := r.threads, sink := r.sink }),
          w) := by
  unfold run runTask
  change StateT.bind (runFrom o s.text fuel s.sink { threads := s.threads } (t.first s.mem)) _ w = _
  unfold StateT.bind
  rcases runFrom o s.text fuel s.sink { threads := s.threads } (t.first s.mem) w with ⟨_ | _, _⟩
  · rfl
  · rfl

theorem run_tells (fuel : Nat) {t : Lua.Task (List Value)}
    (ht : ∀ {p : Policy}, p.Stable → t.Obeys p) :
    Tells o s (s.taskEvents o fuel t w) w (s.run o fuel t w) where
  printed ho := by
    have h := runFrom_printed ho s.text fuel s.sink { threads := s.threads } (t.first s.mem) w
    rw [run_eq, taskEvents, ← h]
    split <;> simp only [*]
  announced {r} hs := by
    have hx : Machine.Obeys (.without r) { threads := s.threads } :=
      ⟨hs.threads, List.forall_mem_nil _, List.forall_mem_nil _⟩
    have h := eventsFrom_announced o s.text fuel s.sink w hx
      (Task.first_obeys (ht (Policy.stable_asking _)) hs.mem)
    refine ⟨h.1, fun hsilent => ?_⟩
    have hran := h.2 hsilent
    rw [run_eq]
    split
    · trivial
    · simp only [*] at hran
      exact ⟨hran.mem, hran.threads⟩
  bindings := by
    rw [run_eq]
    split
    · trivial
    · rfl

theorem run_sink {fuel : Nat} {t : Lua.Task (List Value)} {x : Except Value (List Value) × Session}
    {w' : W} (h : s.run o fuel t w = (.ok x, w')) :
    x.2.sink = (s.taskEvents o fuel t w).foldl Event.pour s.sink := by
  rw [run_eq] at h
  split at h
  · cases h
  · rename_i ran v hran
    cases h
    exact runFrom_sink (by rw [hran])

theorem evaluate_tells (fuel : Nat) (s : Session) (code : String) (w : W) :
    Tells o s (s.evaluateEvents o fuel code w) w (s.evaluate o fuel code w) := by
  unfold evaluateEvents evaluate
  rcases BasicFn.compile (bytes code) chunkSource (bytes "bt") with e | f
  · exact .quiet (fun _ => rfl) id rfl
  · refine (run_tells fuel fun hp => chunk_obeys hp s f).next (fun _ => rfl) fun r s' => ?_
    cases r with
    | ok vs => exact ⟨_, rfl⟩
    | error e => exact ⟨_, rfl⟩

theorem evaluate_sink {fuel : Nat} {code : String} {x : Option String × Session} {w' : W}
    (h : s.evaluate o fuel code w = (.ok x, w')) :
    x.2.sink = (s.evaluateEvents o fuel code w).foldl Event.pour s.sink := by
  unfold evaluate at h
  unfold evaluateEvents
  generalize BasicFn.compile (bytes code) chunkSource (bytes "bt") = compiled at h ⊢
  rcases compiled with e | f
  · cases h
    rfl
  · change StateT.bind (s.run o fuel (s.chunk f)) _ w = _ at h
    unfold StateT.bind at h
    rcases hr : s.run o fuel (s.chunk f) w with ⟨e | ⟨e | vs, s'⟩, w'⟩
    · rw [hr] at h
      cases h
    · rw [hr] at h
      cases h
      exact run_sink hr
    · rw [hr] at h
      cases h
      exact run_sink hr

theorem execute_eq (o : Outside (StateM W)) (fuel : Nat) (s : Session) (code : String) (w : W) :
    s.execute o fuel code w =
      match evaluate o fuel { s with sink := s.sink.capture.2 } code
          (o.log ⟨.debug, target, "executing"⟩ w).2 with
      | (.error h, w) => (.error h, w)
      | (.ok (failure, s'), w) =>
        let captured := match failure with
          | some d => (s'.sink.finish s.sink.capture.1).1.append .err d
          | none => (s'.sink.finish s.sink.capture.1).1
        (.ok (captured, { s' with sink := (s'.sink.finish s.sink.capture.1).2 }),
          (o.log ⟨.debug, target, "execution completed"⟩ w).2) := by
  simp only [execute, Bind.bind, StateT.bind, Pure.pure, Sink.capture]
  rcases o.log ⟨.debug, target, "executing"⟩ w with ⟨⟨⟩, v⟩
  dsimp only
  rcases evaluate o fuel { s with sink := ⟨some {}⟩ } code v with ⟨h | ⟨failure, s'⟩, w'⟩
  · rfl
  · rfl

theorem execute_tells (fuel : Nat) (s : Session) (code : String) (w : W) :
    Tells o s (s.executeEvents o fuel code w) w (s.execute o fuel code w) := by
  have h := evaluate_tells (o := o) fuel { s with sink := s.sink.capture.2 } code
    (o.log ⟨.debug, target, "executing"⟩ w).2
  rw [execute_eq, executeEvents]
  have hobeys {p : Policy} (hs : s.Obeys p) : Session.Obeys p { s with sink := s.sink.capture.2 } :=
    ⟨hs.mem, hs.threads⟩
  generalize evaluate o fuel { s with sink := s.sink.capture.2 } code
    (o.log ⟨.debug, target, "executing"⟩ w).2 = result at h ⊢
  rcases result with ⟨e | ⟨failure, s'⟩, w'⟩
  · refine ⟨fun ho => ?_, fun hs => ⟨(h.announced (hobeys hs)).1, fun _ => trivial⟩, trivial⟩
    exact (h.printed ho).trans (congrArg (· ++ _) (ho.log _ w))
  · refine ⟨fun ho => ?_, fun hs => ⟨(h.announced (hobeys hs)).1, fun hsilent => ?_⟩, h.bindings⟩
    · exact (ho.log _ w').trans ((h.printed ho).trans (congrArg (· ++ _) (ho.log _ w)))
    · have hs' := (h.announced (hobeys hs)).2 hsilent
      exact ⟨hs'.mem, hs'.threads⟩

/-- What is captured of the output is what was written to it. -/
theorem execute_out {fuel : Nat} {code : String} {captured : Captured} {w' : W}
    (h : s.execute o fuel code w = (.ok (captured, s'), w')) :
    captured.out = written .out (s.executeEvents o fuel code w) := by
  rw [execute_eq] at h
  rcases hr : evaluate o fuel { s with sink := s.sink.capture.2 } code
    (o.log ⟨.debug, target, "executing"⟩ w).2 with ⟨e | ⟨failure, t⟩, v⟩
  · rw [hr] at h
    cases h
  · have hsink := evaluate_sink hr
    replace hsink : t.sink = _ := hsink.trans (pour_active _ {})
    rw [hr] at h
    cases failure with
    | none =>
      cases h
      simp [Sink.finish, hsink, executeEvents]
    | some d =>
      cases h
      simp [Sink.finish, hsink, executeEvents, Captured.append]

theorem present_tells (fuel : Nat) (s : Session) (v : Value) (w : W) :
    Tells o s (s.presentEvents o fuel v w) w (s.present o fuel v w) := by
  unfold presentEvents present
  rcases s.mem.json? v with _ | j
  · exact (run_tells fuel fun _ => textOf_obeys v).next (fun _ => rfl) fun _ _ => ⟨_, rfl⟩
  · exact .quiet (fun _ => rfl) (fun hs => hs) rfl

theorem lookup_tells (fuel : Nat) (s : Session) (name : String) (w : W) :
    Tells o s (s.lookupEvents o fuel name w) w (s.lookup o fuel name w) := by
  unfold lookupEvents lookup
  cases s.mem.rawGet s.bindings (.text name) with
  | nil => exact .quiet (fun _ => rfl) (fun hs => hs) rfl
  | _ => exact present_tells fuel s _ w

end Session

end LuaSession
