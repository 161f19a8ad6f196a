import LuaSession.Proofs.Service.Verdict
import LuaSession.Proofs.Session.Rest

/-!
# Lines one after another

A session answers lines in order, until all are answered or evaluated code ends the process. A line
asks for a command, which is then carried out, or is refused and leaves the session as it is.

* `perform_leaves`: the context that a command leaves.
* `dispatchLine_asks`, `dispatchLine_refused`: what becomes of the session and the world.
* `dispatchLine_halts`: why a line gets no response.
* `reached_answerLines`: all that lines make of a session can become of it.
-/

namespace LuaSession.Service

open LuaSession.Lua LuaSession.Wire

/-- Answers lines. Besides the responses it gives the session that is left, or why there is none. -/
def answerLines {m : Type → Type} [Monad m] (o : Outside m) (fuel : Nat) :
    Session → List String → m (List Response × Except Halt Session)
  | s, [] => pure ([], .ok s)
  | s, line :: lines => do
    match ← dispatchLine o fuel s line with
    | .error h => return ([], .error h)
    | .ok (r, s) =>
      let (rs, left) ← answerLines o fuel s lines
      return (r :: rs, left)

variable {W : Type} {o : Outside (StateM W)} {fuel : Nat} {s s' : Session}

/-! ### One command -/

/-- The context that a command leaves. -/
def Command.contextAfter (text : String) : Command → String
  | .setContext text => text
  | .destroy => ""
  | .execute _ | .getVariable _ => text

/-- A command leaves the context that it gives, if any, under the same name, and no function runs after
it. -/
structure Command.Leaves (c : Command) (s s' : Session) : Prop where
  text : s'.text = c.contextAfter s.text
  name : s'.contextName = s.contextName
  rests : s.Rests → s'.Rests

theorem perform_leaves (o : Outside (StateM W)) (fuel : Nat) (s : Session) (c : Command) :
    Always (IfOk fun r => c.Leaves s r.2) (perform o fuel s c) := by
  cases c with
  | execute code =>
    refine .bind_any fun before => .bind (Session.execute_leaves fuel s code) fun r hr => ?_
    split
    · exact .pure trivial
    · exact .bind_any fun after => .pure ⟨hr.text, hr.name, hr.rests⟩
  | setContext text =>
    have hprovide : Always (Command.Leaves (.setContext text) s) (s.provide o text) :=
      .bind_any fun _ => .pure ⟨Session.setContext_text s text, Session.setContext_contextName s text,
        fun h => Session.setContext_rests h text⟩
    exact .bind hprovide fun t ht => .pure ht
  | getVariable name =>
    refine .bind (Session.lookup_leaves fuel s name) fun r hr => ?_
    split
    · exact .pure trivial
    · exact .pure ⟨hr.text, hr.name, hr.rests⟩
  | destroy =>
    have hdestroy : Always (Command.Leaves .destroy s) (s.destroy o) :=
      .bind_any fun _ => .pure
        ⟨Session.clear_text s, Session.clear_contextName s, Session.clear_rests⟩
    exact .bind hdestroy fun t ht => .pure ht

/-- What becomes of a new session that evaluates a program in an empty world, where a test of it can be
computed. -/
theorem exists_evaluated (code : String) (p : Session → Bridge.Client × World → Bool)
    (h : ((Session.start "context").toOption.bind fun s₀ =>
      match perform serverOutside 400 s₀ (.execute code) (⟨"bridge", 0⟩, {}) with
      | (.error _, _) => none
      | (.ok (_, s), v) => some (p s v)) = some true) :
    ∃ s₀ result s v, Session.start "context" = .ok s₀ ∧
      perform serverOutside 400 s₀ (.execute code) (⟨"bridge", 0⟩, {}) = (.ok (result, s), v) ∧
      p s v = true := by
  rcases hstart : Session.start "context" with e | s₀
  · rw [hstart] at h
    cases h
  rcases hfirst : perform serverOutside 400 s₀ (.execute code) (⟨"bridge", 0⟩, {}) with
    ⟨e | ⟨result, s⟩, v⟩
  · simp [Except.toOption, hstart, hfirst] at h
  simp only [Except.toOption, hstart, hfirst, Option.bind_some, Option.some.injEq] at h
  exact ⟨s₀, result, s, v, rfl, hfirst, h⟩

/-- The name of the context stays. -/
theorem Reached.contextName {s₀ : Session} {past : List Event} (h : Reached s₀ past s) :
    s.contextName = s₀.contextName := by
  induction h with
  | start => rfl
  | @perform past s s' W o fuel c w w' result _ hrun ih =>
    have hleaves := perform_leaves o fuel s c w
    rw [hrun] at hleaves
    exact hleaves.name.trans ih

/-- Between commands no function runs. -/
theorem Reached.rests {s₀ : Session} {past : List Event} (h : Reached s₀ past s) (h₀ : s₀.Rests) :
    s.Rests := by
  induction h with
  | start => exact h₀
  | @perform past s s' W o fuel c w w' result _ hrun ih =>
    have hleaves := perform_leaves o fuel s c w
    rw [hrun] at hleaves
    exact hleaves.rests ih

/-! ### One line -/

/-- The world after some events for the log. -/
def logged (o : Outside (StateM W)) (es : List Log.Event) (w : W) : W :=
  es.foldl (fun w e => (o.log e w).2) w

/-- A request was decoded. -/
def received : Log.Event := ⟨.debug, target, "dispatching request"⟩

/-- A line that asks for a command is answered with its result. -/
theorem dispatchLine_asks {line : String} {c : Command} (h : Asks line.toList c) (w : W) :
    dispatchLine o fuel s line w =
      match perform o fuel s c (logged o [received] w) with
      | (.error e, w') => (.error e, w')
      | (.ok (result, s'), w') => (.ok (⟨idOf line.toList, .ok result⟩, s'), w') := by
  have hid := decodeRequest_id line.toList
  have hc := asks_iff.1 h
  unfold outcomeOf at hc
  rcases hd : decodeRequest line.toList with e | r
  · rw [hd] at hc
    cases hc
  rw [hd] at hid hc
  dsimp only at hid hc
  rcases hr : readCommand r with e | c'
  · rw [hr] at hc
    cases hc
  rw [hr] at hc
  cases hc
  rw [← hid]
  rcases hlog : o.log received w with ⟨⟨⟩, w₁⟩
  have hlogged : logged o [received] w = w₁ := congrArg Prod.snd hlog
  rw [hlogged]
  rw [received] at hlog
  rcases hp : perform o fuel s c w₁ with ⟨e | ⟨result, s'⟩, w'⟩
  all_goals
    simp only [dispatchLine, hd, dispatch, bind, StateT.bind, pure, pure_stateT, hlog, hr, hp]

/-- A request that no command is read from is answered with an error, and nothing is done but logging. -/
theorem dispatch_refused (o : Outside (StateM W)) (fuel : Nat) (s : Session) {r : Wire.Request}
    {e : DispatchError} (h : readCommand r = .error e) :
    ∃ es, ∀ w : W,
      dispatch o fuel s r w = (.ok (⟨r.id, .error e.toRpcError⟩, s), logged o es w) := by
  cases e with
  | methodNotFound =>
    refine ⟨[received, ⟨.warn, target, "unknown method"⟩], fun w => ?_⟩
    simp only [dispatch, bind, StateT.bind, h]
    rfl
  | invalidParams | session | serialize =>
    refine ⟨[received, ⟨.debug, target, "request failed"⟩], fun w => ?_⟩
    simp only [dispatch, bind, StateT.bind, h]
    rfl

/-- A line that asks for no command is answered with an error, and nothing is done but logging. -/
theorem dispatchLine_refused (o : Outside (StateM W)) (fuel : Nat) (s : Session) {line : String}
    (h : ∀ c, ¬Asks line.toList c) :
    ∃ r es, r.isError = true ∧
      ∀ w : W, dispatchLine o fuel s line w = (.ok (r, s), logged o es w) := by
  rcases hd : decodeRequest line.toList with e | r
  · refine ⟨⟨e.id, .error e.toRpcError⟩, [⟨.warn, target, "rejecting undecodable line"⟩], rfl,
      fun w => ?_⟩
    simp only [dispatchLine, hd]
    rfl
  · rcases hr : readCommand r with e | c
    · obtain ⟨es, hes⟩ := dispatch_refused o fuel s hr
      refine ⟨⟨r.id, .error e.toRpcError⟩, es, rfl, fun w => ?_⟩
      simp only [dispatchLine, hd, hes]
    · refine absurd (asks_iff.2 ?_) (h c)
      rw [outcomeOf, hd]
      dsimp only
      rw [hr]

/-- Where a line gets no response, the command that it asks for halts. -/
theorem dispatchLine_halts {line : String} {w : W} {e : Halt}
    (h : (dispatchLine o fuel s line w).1 = .error e) :
    ∃ c, Asks line.toList c ∧ Halts o fuel s e c := by
  by_cases hasks : ∃ c, Asks line.toList c
  · obtain ⟨c, hc⟩ := hasks
    rw [dispatchLine_asks hc] at h
    obtain ⟨e', w', hrun, hhalts⟩ | ⟨result, s', w', hrun⟩ :=
      perform_result o fuel s c (logged o [received] w)
    · rw [hrun] at h
      cases h
      exact ⟨c, hc, hhalts⟩
    · rw [hrun] at h
      cases h
  · obtain ⟨r, es, -, hall⟩ := dispatchLine_refused o fuel s fun c hc => hasks ⟨c, hc⟩
    rw [hall] at h
    cases h

/-! ### Several lines -/

theorem answerLines_cons (line : String) (lines : List String) (w : W) :
    answerLines o fuel s (line :: lines) w =
      match dispatchLine o fuel s line w with
      | (.error h, w') => (([], .error h), w')
      | (.ok (r, s'), w') =>
        let rest := answerLines o fuel s' lines w'
        ((r :: rest.1.1, rest.1.2), rest.2) := by
  rw [answerLines]
  simp only [bind, StateT.bind]
  rcases dispatchLine o fuel s line w with ⟨h | ⟨r, s'⟩, w'⟩
  · rfl
  · rfl

/-- If a session is left, each line was answered. -/
theorem answerLines_cons_ok {line : String} {lines : List String} {rs : List Response} {w w' : W}
    (h : answerLines o fuel s (line :: lines) w = ((rs, .ok s'), w')) :
    ∃ r rest t v, rs = r :: rest ∧ dispatchLine o fuel s line w = (.ok (r, t), v) ∧
      answerLines o fuel t lines v = ((rest, .ok s'), w') := by
  rw [answerLines_cons] at h
  rcases hd : dispatchLine o fuel s line w with ⟨e | ⟨r, t⟩, v⟩
  · rw [hd] at h
    cases h
  · rcases hrest : answerLines o fuel t lines v with ⟨⟨rest, left⟩, v'⟩
    rw [hd] at h
    dsimp only at h
    rw [hrest] at h
    cases h
    exact ⟨r, rest, t, v, rfl, rfl, hrest⟩

/-- What is done with a line can become of the session. -/
theorem reached_dispatchLine {s₀ : Session} {past : List Event} {line : String} {r : Response}
    {w w' : W} (hs : Reached s₀ past s)
    (h : dispatchLine o fuel s line w = (.ok (r, s'), w')) : ∃ past', Reached s₀ past' s' := by
  by_cases hasks : ∃ c, Asks line.toList c
  · obtain ⟨c, hc⟩ := hasks
    rw [dispatchLine_asks hc] at h
    rcases hp : perform o fuel s c (logged o [received] w) with ⟨e | ⟨result, t⟩, v⟩
    · rw [hp] at h
      cases h
    · rw [hp] at h
      cases h
      exact ⟨_, .perform hs hp⟩
  · obtain ⟨r', es, -, hall⟩ := dispatchLine_refused o fuel s
      fun c hc => hasks ⟨c, hc⟩
    rw [hall] at h
    cases h
    exact ⟨_, hs⟩

theorem reached_answerLines {s₀ : Session} {past : List Event} {lines : List String}
    {rs : List Response} {w w' : W} (hs : Reached s₀ past s)
    (h : answerLines o fuel s lines w = ((rs, .ok s'), w')) : ∃ past', Reached s₀ past' s' := by
  induction lines generalizing s past rs w with
  | nil =>
    cases h
    exact ⟨past, hs⟩
  | cons line lines ih =>
    obtain ⟨r, rs, t, v, rfl, hline, hrest⟩ := answerLines_cons_ok h
    obtain ⟨past', ht⟩ := reached_dispatchLine hs hline
    exact ih ht hrest

end LuaSession.Service
