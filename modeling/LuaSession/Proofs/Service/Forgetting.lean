import LuaSession.Proofs.Service.Lines
import LuaSession.Proofs.Session.Behind

/-!
# What destroying forgets

Destroying a session takes the values of the bindings and nothing else: what programs changed behind the
bindings stays as they left it.

* `Reached.obeys`: a policy that a new session obeys is obeyed by all that it can become.
* `destroy_leaves`: what is left of any such session that is destroyed.
* `builtins_lost`: a program can take the built-in functions from those after it.
* `destroy_forgets`: two sessions that nothing tells apart once they are destroyed.
* `contexts_forgotten`: two such sessions, which were given different contexts.
-/

namespace LuaSession.Service

open LuaSession.Lua

variable {W : Type} {o : Outside (StateM W)} {s₀ s : Session} {past : List Event}

/-! ### Policies -/

/-- Every outside corresponds to itself. -/
theorem corresponds_self (p : Policy) (o : Outside (StateM W)) :
    o.Corresponds (.visited (fun _ _ => True) (fun _ => trivial) fun _ _ _ _ _ => trivial) p o where
  now := ⟨rfl, fun _ => ⟨trivial, trivial⟩⟩
  clock := ⟨rfl, fun _ => ⟨trivial, trivial⟩⟩
  stopwatch := ⟨rfl, fun _ => ⟨trivial, trivial⟩⟩
  variable_ _ := ⟨rfl, fun _ => ⟨trivial, trivial⟩⟩
  log _ := ⟨rfl, fun _ => ⟨trivial, trivial⟩⟩
  spill _ _ _ := ⟨rfl, fun _ => ⟨trivial, trivial⟩⟩
  ask _ _ _ := ⟨rfl, fun _ => ⟨trivial, trivial⟩⟩

theorem Reached.obeys {p : Policy} (hp : p.Lasting) (h : Reached s₀ past s) (h₀ : s₀.Obeys p) :
    s.Obeys p := by
  induction h with
  | start => exact h₀
  | @perform past s s' W o fuel c w w' result _ hrun ih =>
    have hstep := ((perform_holds hp (corresponds_self p o) fuel ih c).2 w).1
    rw [hrun] at hstep
    exact hstep

/-- The bindings are where they were. -/
theorem Reached.bindings (h : Reached s₀ past s) : s.bindings = s₀.bindings := by
  induction h with
  | start => rfl
  | @perform past s s' W o fuel c w w' result _ hrun ih =>
    have hstep := (perform_tells (o := o) fuel s c w).bindings
    rw [hrun] at hstep
    exact hstep.trans ih

theorem Reached.sound {contextName : String} (hstart : Session.start contextName = .ok s₀)
    (h : Reached s₀ past s) : s.Sound := by
  rw [Session.Sound, h.bindings]
  exact (h.obeys (Policy.lasting_sound s₀.bindings)
    (Session.start_obeys hstart (Session.start_sound hstart))).mem

/-! ### Destroying -/

/-- Whatever a session went through, destroying it leaves the bindings without values and an empty
context: no key has a value and every name is looked up in vain. All else is as it was, with the
metatable of the bindings and what stands behind it. -/
theorem destroy_leaves {contextName : String} (hstart : Session.start contextName = .ok s₀)
    (h : Reached s₀ past s) (fuel : Nat) (w : W) :
    ∃ left : Session,
      (perform o fuel s .destroy w).1 = .ok (statusOk, left) ∧
      left = { s with mem := s.mem.modifyTable s.bindings Table.emptied, text := "" } ∧
      left.entries = [] ∧ (∀ key, left.mem.rawGet left.bindings key = .nil) ∧
      (∀ name, left.lookup o fuel name = pure (.ok (⟨false, .null⟩, left))) ∧
      ∀ id t, s.mem.tables[id]? = some t →
        left.mem.tables[id]? = some (if id = s.bindings then t.emptied else t) := by
  have hsound := h.sound hstart
  refine ⟨s.clear, rfl, Session.clear_eq hsound, Session.entries_clear hsound,
    Session.rawGet_clear hsound, fun name => ?_, fun id t ht => ?_⟩
  · rw [Session.lookup, Session.rawGet_clear hsound]
  · rw [Session.clear_eq hsound, Mem.modifyTable, Array.getElem?_modify, ht]
    simp only [eq_comm (a := s.bindings), apply_ite some, Option.map_some]

/-- After a program that binds a name. -/
theorem destroy_leaves_sample : ∃ (s₀ s left : Session) (result : Json)
    (v w : Bridge.Client × World), Session.start "context" = .ok s₀ ∧
    perform serverOutside 400 s₀ (.execute "x = 1") (⟨"bridge", 0⟩, {}) = (.ok (result, s), v) ∧
    (s.mem.rawGet s.bindings (.text "x")).isNil = false ∧
    perform serverOutside 400 s .destroy v = (.ok (statusOk, left), w) ∧
    left.mem.rawGet left.bindings (.text "x") = .nil := by
  have h : ((Session.start "context").toOption.bind fun s₀ =>
      (perform serverOutside 400 s₀ (.execute "x = 1") (⟨"bridge", 0⟩, {})).1.toOption.map fun r =>
        (r.2.mem.rawGet r.2.bindings (.text "x")).isNil) = some false := by
    decide +kernel
  rcases hstart : Session.start "context" with e | s₀
  · rw [hstart] at h
    cases h
  rw [hstart] at h
  rcases hfirst : perform serverOutside 400 s₀ (.execute "x = 1") (⟨"bridge", 0⟩, {}) with
    ⟨e | ⟨result, s⟩, v⟩
  · simp [Except.toOption, hfirst] at h
  simp only [Except.toOption, Option.bind_some, hfirst, Option.map_some, Option.some.injEq] at h
  obtain ⟨left, hleft, -, -, hget, -⟩ :=
    destroy_leaves hstart (.perform .start hfirst) (o := serverOutside) 400 v
  exact ⟨s₀, s, left, result, v, (perform serverOutside 400 s .destroy v).2, rfl, hfirst, h,
    Prod.ext hleft rfl, hget _⟩

/-- The output of a program after commands, in a new session and an empty world. -/
def outputAfter (past : List Command) (code : String) : Option String := do
  let s ← (Session.start "context").toOption
  let w : Bridge.Client × World := (⟨"bridge", 0⟩, {})
  let (s, w) ← past.foldlM (fun (s, w) c =>
    match perform serverOutside 400 s c w with
    | (.ok (_, s), w) => some (s, w)
    | (.error _, _) => none) (s, w)
  match (s.execute serverOutside 400 code w).1 with
  | .ok (captured, _) => some captured.out
  | .error _ => none

/-- A program can cut the bindings off from what is behind them. What it did outlasts destroying, so
the next program finds no function to print with. -/
theorem builtins_lost :
    outputAfter [.destroy] "print('x')" = some "x\n" ∧
    outputAfter [.execute "setmetatable(_ENV, nil)", .destroy] "print('x')" = some "" := by
  decide +kernel

/-! ### Two runs -/

theorem dispatchLine_destroy {line : String} (h : Asks line.toList .destroy) (fuel : Nat) (w : W) :
    dispatchLine o fuel s line w =
      (.ok (⟨idOf line.toList, .ok statusOk⟩, s.clear),
        logged o [received, ⟨.debug, Session.target, "context destroyed"⟩] w) := by
  rw [dispatchLine_asks h]
  rfl

/-- From the line on that destroys a session only what is left then counts. -/
theorem answerLines_destroyed {s' : Session} (h : s.clear = s'.clear) {line : String}
    (hline : Asks line.toList .destroy) (fuel : Nat) (lines : List String) (w : W) :
    answerLines o fuel s (line :: lines) w = answerLines o fuel s' (line :: lines) w := by
  rw [answerLines_cons, answerLines_cons, dispatchLine_destroy hline, dispatchLine_destroy hline, h]

/-- Two sessions, whatever either of them went through, that differ at most in their contexts and in the
values of their bindings. From the line on that destroys them, all lines are answered the same and
leave the same world, however programs look for a difference. -/
theorem destroy_forgets {contextName contextName' : String} {s₀' s' : Session}
    {past' : List Event} (hstart : Session.start contextName = .ok s₀) (h : Reached s₀ past s)
    (hstart' : Session.start contextName' = .ok s₀') (h' : Reached s₀' past' s')
    (hsame : s.SameBehind s') {line : String} (hline : Asks line.toList .destroy) (fuel : Nat)
    (lines : List String) (w : W) :
    answerLines o fuel s (line :: lines) w = answerLines o fuel s' (line :: lines) w :=
  answerLines_destroyed
    ((Session.clear_eq_iff (h.sound hstart) (h'.sound hstart')).2 hsame) hline fuel lines w

/-- So it makes no difference which contexts a session was given before it was destroyed. -/
theorem contexts_forgotten {contextName : String} (hstart : Session.start contextName = .ok s₀)
    (h : Reached s₀ past s) {texts texts' : List String} (hlength : texts.length = texts'.length)
    {line : String} (hline : Asks line.toList .destroy) (fuel : Nat) (lines : List String) (w : W) :
    answerLines o fuel (texts.foldl Session.setContext s) (line :: lines) w =
      answerLines o fuel (texts'.foldl Session.setContext s) (line :: lines) w := by
  refine answerLines_destroyed ((Session.clear_eq_iff ?_ ?_).2 ?_) hline fuel lines w
  · exact Session.setContexts_sound (h.sound hstart) texts
  · exact Session.setContexts_sound (h.sound hstart) texts'
  · exact ((Session.SameBut.refl _ s).setContexts hlength).behind

end LuaSession.Service
