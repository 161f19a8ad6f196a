import LuaSession.Proofs.Lua.Context
import LuaSession.Proofs.Lua.Policy.Machine
import LuaSession.Proofs.Service.Lines

/-!
# The context of a session

Whatever programs do, a session has the context that it was given last, and every function that
reads the context reads that one.

* `Stands`: the context that a history of lines and responses leaves.
* `answerLines_context`: the context of a session after any lines, and the functions that read it.
-/

namespace LuaSession

open LuaSession.Lua LuaSession.Wire

namespace Service

/-! ### Histories -/

/-- A line was answered with success to a command. -/
def Did (e : String × Response) (c : Command) : Prop :=
  e.2.isError = false ∧ Asks e.1.toList c

/-- The context that a history leaves: the last one that was given, unless the session was destroyed
after that; and an empty one if there is no such context. -/
inductive Stands (history : List (String × Response)) : String → Prop
  | given {before after : List (String × Response)} {e : String × Response} {text : String} :
      history = before ++ e :: after → Did e (.setContext text) →
      (∀ e' ∈ after, ¬Did e' .destroy ∧ ∀ t, ¬Did e' (.setContext t)) → Stands history text
  | none :
      (∀ before e after text, history = before ++ e :: after → Did e (.setContext text) →
        ∃ e' ∈ after, Did e' .destroy) → Stands history ""

/-- A line asks for one command at most. -/
theorem Did.unique {e : String × Response} {c c' : Command} (h : Did e c) (h' : Did e c') :
    c = c' := by
  have heq := asks_iff.1 h.2
  rw [asks_iff.1 h'.2] at heq
  cases heq
  rfl

/-- What a longer history has at some place is the new event or stood there before. -/
theorem concat_eq_split {α : Type} {l before after : List α} {e e' : α}
    (h : l ++ [e] = before ++ e' :: after) :
    (e' = e ∧ after = []) ∨ ∃ rest, after = rest ++ [e] ∧ l = before ++ e' :: rest := by
  rcases after.eq_nil_or_concat with rfl | ⟨rest, last, rfl⟩
  · obtain ⟨-, he⟩ := List.append_inj' h rfl
    cases he
    exact .inl ⟨rfl, rfl⟩
  · rw [List.concat_eq_append, ← List.cons_append, ← List.append_assoc] at h
    obtain ⟨hl, he⟩ := List.append_inj' h rfl
    cases he
    exact .inr ⟨rest, List.concat_eq_append, hl⟩

namespace Stands

variable {history : List (String × Response)} {e : String × Response} {text : String}

theorem setContext (h : Did e (.setContext text)) : Stands (history ++ [e]) text :=
  .given rfl h (List.forall_mem_nil _)

theorem destroy (h : Did e .destroy) : Stands (history ++ [e]) "" := by
  refine .none fun before e' after t heq hset => ?_
  obtain ⟨rfl, -⟩ | ⟨rest, rfl, -⟩ := concat_eq_split heq
  · cases h.unique hset
  · exact ⟨e, List.mem_append_right _ (List.mem_singleton_self e), h⟩

/-- Everything else leaves the context. -/
theorem keep (h : Stands history text) (hdestroy : ¬Did e .destroy)
    (hset : ∀ t, ¬Did e (.setContext t)) : Stands (history ++ [e]) text := by
  cases h with
  | @given before after e₀ _ heq hdid hafter =>
    have hsplit : history ++ [e] = before ++ e₀ :: (after ++ [e]) := by
      rw [heq, List.append_assoc, List.cons_append]
    refine .given hsplit hdid fun e' he' => ?_
    obtain he' | he' := List.mem_append.1 he'
    · exact hafter e' he'
    · rw [List.mem_singleton.1 he']
      exact ⟨hdestroy, hset⟩
  | none h =>
    refine .none fun before e' after t heq hset' => ?_
    obtain ⟨rfl, -⟩ | ⟨rest, rfl, hsplit⟩ := concat_eq_split heq
    · exact absurd hset' (hset t)
    · obtain ⟨e'', hmem, hdid⟩ := h before e' rest t hsplit hset'
      exact ⟨e'', List.mem_append_left _ hmem, hdid⟩

end Stands

/-! ### Lines -/

variable {W : Type} {o : Outside (StateM W)} {fuel : Nat} {s s' : Session}

/-- One more line in the history. -/
theorem dispatchLine_stands {history : List (String × Response)} {line : String} {r : Response}
    {w w' : W} (hs : Stands history s.text)
    (h : dispatchLine o fuel s line w = (.ok (r, s'), w')) :
    Stands (history ++ [(line, r)]) s'.text := by
  by_cases hasks : ∃ c, Asks line.toList c
  · obtain ⟨c, hc⟩ := hasks
    have hleft := perform_leaves o fuel s c (logged o [received] w)
    rw [dispatchLine_asks hc] at h
    rcases hp : perform o fuel s c (logged o [received] w) with ⟨e | ⟨result, t⟩, v⟩
    · rw [hp] at h
      cases h
    rw [hp] at h hleft
    cases h
    have hdid : Did (line, ⟨idOf line.toList, .ok result⟩) c := ⟨rfl, hc⟩
    rw [hleft.text]
    cases c with
    | setContext text => exact .setContext hdid
    | destroy => exact .destroy hdid
    | execute | getVariable =>
      exact hs.keep (fun h => nomatch hdid.unique h) fun _ h => nomatch hdid.unique h
  · obtain ⟨r', es, -, hall⟩ := dispatchLine_refused o fuel s
      fun c hc => hasks ⟨c, hc⟩
    rw [hall] at h
    cases h
    exact hs.keep (fun h => hasks ⟨_, h.2⟩) fun _ h => hasks ⟨_, h.2⟩

theorem answerLines_stands {history : List (String × Response)} {lines : List String}
    {rs : List Response} {w w' : W} (hs : Stands history s.text)
    (h : answerLines o fuel s lines w = ((rs, .ok s'), w')) :
    Stands (history ++ lines.zip rs) s'.text := by
  induction lines generalizing s history rs w with
  | nil =>
    cases h
    rwa [List.zip_nil_left, List.append_nil]
  | cons line lines ih =>
    obtain ⟨r, rs, t, v, rfl, hline, hrest⟩ := answerLines_cons_ok h
    have := ih (dispatchLine_stands hs hline) hrest
    rwa [List.append_assoc] at this

/-! ### Functions that read the context -/

end Service

namespace Session

variable {W : Type}

/-- A task at its beginning. -/
def begun (s : Session) (fuel : Nat) (t : Lua.Task (List Value)) (w : W) : Running W :=
  ⟨fuel, s.sink, { threads := s.threads }, t.first s.mem, w⟩

/-- What a run leaves of a session. -/
def ended (s : Session) :
    Except Halt Ran × W → Except Halt (Except Value (List Value) × Session) × W
  | (.error h, w) => (.error h, w)
  | (.ok r, w) =>
    (.ok (r.result, { s with mem := r.mem.atRest, threads := r.threads, sink := r.sink }), w)

theorem run_begun (o : Outside (StateM W)) (fuel : Nat) (s : Session)
    (t : Lua.Task (List Value)) (w : W) :
    s.run o fuel t w = s.ended ((s.begun fuel t w).outcome o s.text) := by
  rw [run_eq, begun, Running.outcome]
  rcases runFrom o s.text fuel s.sink { threads := s.threads } (t.first s.mem) w with ⟨_ | _, _⟩
  · rfl
  · rfl

/-- Wherever a run calls a utility, whichever value it is and wherever it comes from, it goes on with a
search in this text where no other is given, unless calls are nested too deep. -/
def Searches (o : Outside (StateM W)) (s : Session) (text : String) : Prop :=
  ∀ (fuel : Nat) (t : Lua.Task (List Value)) (w : W) (u : Running W) (f : Utility)
    (args : List Value), (s.begun fuel t w).Leads o s.text u →
    u.machine.callee? u.step = some (.builtin (.host (.utility f)), args) →
    (∃ site m y, ∃ steps ≤ 1,
      u.machine.advance u.step = .step (Machine.enterBuiltin (.host (.utility f)) args site m) y ∧
      ∀ left, u.fuel = left + steps + 1 →
        s.run o fuel t w =
          s.ended (runFrom o s.text left u.sink y (searchIn text f args site m) u.world)) ∨
    ∃ e y, u.machine.advance u.step = .step e y ∧ e.Raises

/-- A session is searched for its own context. -/
theorem searches_text (o : Outside (StateM W)) (s : Session) : s.Searches o s.text := by
  intro fuel t w u f args hleads hcallee
  obtain ⟨site, m, y, hadvance⟩ | hraises := Machine.advance_builtin hcallee
  · obtain ⟨steps, hsteps, hrun⟩ := runFrom_search o s.text hadvance
    refine .inl ⟨site, m, y, steps, hsteps, hadvance, fun left hleft => ?_⟩
    rw [run_begun, hleads.outcome_eq, Running.outcome, hleft, hrun]
  · exact .inr hraises

end Session

namespace Service

variable {W : Type} {o : Outside (StateM W)} {fuel : Nat}

/-- Whatever lines a new session answered, its context is the one that stands in their history, and in
every run in that session the utilities read this context, whatever programs did with them. -/
theorem answerLines_context {contextName : String} {s₀ s : Session}
    (hstart : Session.start contextName = .ok s₀) {lines : List String} {rs : List Response}
    {w w' : W} (h : answerLines o fuel s₀ lines w = ((rs, .ok s), w')) :
    Stands (lines.zip rs) s.text ∧
      ∀ sink : Sink, Session.Searches o { s with sink := sink } s.text := by
  have hnew : Stands [] s₀.text := by
    rw [Session.start_text hstart]
    exact .none fun before e after t heq => by simp at heq
  refine ⟨answerLines_stands hnew h, fun sink => ?_⟩
  exact Session.searches_text o { s with sink := sink }

/-- What a client sends that gives one context, keeps a utility, and gives another context. -/
def contextLines : List String :=
  ["\x7b\"id\":1,\"method\":\"initialize\",\"params\":\x7b\"context\":\"one\"\x7d\x7d",
   "\x7b\"id\":2,\"method\":\"execute\",\"params\":\x7b\"code\":\"f = get_line context = 1\"\x7d\x7d",
   "\x7b\"id\":3,\"method\":\"initialize\",\"params\":\x7b\"context\":\"two\"\x7d\x7d"]

theorem answerLines_context_sample : ∃ (s₀ s : Session) (rs : List Response)
    (w : Bridge.Client × World), Session.start "context" = .ok s₀ ∧
    answerLines serverOutside 400 s₀ contextLines (⟨"bridge", 0⟩, {}) = ((rs, .ok s), w) ∧
    s.text = "two" ∧ Stands (contextLines.zip rs) "two" ∧ s.Searches serverOutside "two" := by
  have h : ((Session.start "context").toOption.bind fun s₀ =>
      (answerLines serverOutside 400 s₀ contextLines
        (⟨"bridge", 0⟩, {})).1.2.toOption.map (·.text)) = some "two" := by
    decide +kernel
  rcases hstart : Session.start "context" with e | s₀
  · rw [hstart] at h
    cases h
  rcases hlines : answerLines serverOutside 400 s₀ contextLines (⟨"bridge", 0⟩, {}) with
    ⟨⟨rs, e | s⟩, w⟩
  · simp [Except.toOption, hstart, hlines] at h
  simp only [Except.toOption, hstart, Option.bind_some, hlines, Option.map_some,
    Option.some.injEq] at h
  obtain ⟨hstands, hsearches⟩ := answerLines_context hstart hlines
  refine ⟨s₀, s, rs, w, rfl, hlines, h, ?_, ?_⟩
  · rw [← h]
    exact hstands
  · rw [← h]
    exact hsearches s.sink

end Service

end LuaSession
