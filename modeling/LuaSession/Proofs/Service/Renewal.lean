import LuaSession.Config.Load
import LuaSession.Proofs.Service.Forgetting
import LuaSession.Proofs.Service.Lines
import LuaSession.Proofs.Session.Renewal

/-!
# Sessions that are given a context again

Whatever a session went through, giving it a context makes of the bindings what it would have made of
them had no context been given before; and a session that was destroyed has the bindings that come with
the context and no others. The context is found under its name if this is none of the names of the
functions that come with it: nothing else is asked of a name than not to be blank.

* `contexts_renew`: contexts after one another, and after a session was destroyed.
* `context_found`: what is found under the name of the context and under those of the functions.
* `context_shadowed`: a name under which the context is not found.
-/

namespace LuaSession.Service

open LuaSession.Lua

/-- In whatever world, the command is carried out with this result and leaves this session. -/
def Command.Gives (c : Command) (s : Session) (result : Json) (s' : Session) : Prop :=
  ∀ {W : Type} (o : Outside (StateM W)) (fuel : Nat) (w : W),
    (perform o fuel s c w).1 = .ok (result, s')

section

variable (s : Session) (text : String)

theorem gives_setContext : (Command.setContext text).Gives s statusOk (s.setContext text) :=
  fun _ _ _ => rfl

theorem gives_destroy : Command.destroy.Gives s statusOk s.clear :=
  fun _ _ _ => rfl

end

/-- A look-up that gives its answer at once. -/
theorem gives_getVariable {s : Session} {name : String} {l : Session.Lookup}
    (h : ∀ {W : Type} (o : Outside (StateM W)) (fuel : Nat),
      s.lookup o fuel name = pure (.ok (l, s))) :
    (Command.getVariable name).Gives s (lookupResult l) s := by
  intro W o fuel w
  simp only [perform, h, bind, StateT.bind]
  rfl

variable {contextName : String} {s₀ s : Session} {past : List Event}

/-- The context keeps the name that the session was started with. -/
theorem Reached.name_eq (h : Reached s₀ past s) (hstart : Session.start contextName = .ok s₀) :
    contextName = s.contextName := by
  rw [h.contextName, Session.start_contextName hstart]

/-! ### One context after another -/

/-- Whatever programs did with the bindings: a context that is followed by another leaves no trace but
functions that were made anew under the same names; a context changes no binding under another name
than its own and theirs; after a session was destroyed nothing is bound and there is no context; and a
context then binds these names and no others. -/
theorem contexts_renew (hstart : Session.start contextName = .ok s₀) (h : Reached s₀ past s)
    (a b : String) :
    ∃ sa sab sb left renewed : Session,
      (Command.setContext a).Gives s statusOk sa ∧ (Command.setContext b).Gives sa statusOk sab ∧
      (Command.setContext b).Gives s statusOk sb ∧ Command.destroy.Gives s statusOk left ∧
      (Command.setContext b).Gives left statusOk renewed ∧
      sb.text = b ∧ Session.Alike s.mem.funcs.size sb sab ∧
      (∀ key, (∀ name ∈ contextName :: hostNames, key ≠ .text name) → sb.bound key = s.bound key) ∧
      left.text = "" ∧ left.entries = [] ∧ (∀ key, left.bound key = .nil) ∧
      (∀ name, (Command.getVariable name).Gives left (lookupResult ⟨false, .null⟩) left) ∧
      ∀ key, (renewed.bound key).isNil = false ↔
        ∃ name ∈ contextName :: hostNames, key = .text name := by
  have hsound := h.sound hstart
  obtain rfl := h.name_eq hstart
  refine ⟨s.setContext a, (s.setContext a).setContext b, s.setContext b, s.clear,
    s.clear.setContext b, gives_setContext s a, gives_setContext _ b, gives_setContext s b,
    gives_destroy s, gives_setContext _ b, Session.setContext_text s b,
    Session.setContext_alike hsound a b, fun key => Session.bound_setContext_of_ne hsound b,
    Session.clear_text s, Session.entries_clear hsound, Session.rawGet_clear hsound,
    fun name => gives_getVariable fun o fuel => ?_, Session.bound_renewed hsound b⟩
  rw [Session.lookup, Session.rawGet_clear hsound]

/-- A program that binds a name, takes that of a function and keeps others from being bound. -/
def bindingProgram : String :=
  "x = 1 get_line = 2 setmetatable(_ENV, \x7b__newindex = function() end\x7d)"

theorem exists_bound : ∃ (s₀ s : Session) (past : List Event), Session.start "context" = .ok s₀ ∧
    Reached s₀ past s ∧ (s.bound (.text "x")).isNil = false := by
  obtain ⟨s₀, result, s, v, hstart, hrun, hx⟩ := exists_evaluated bindingProgram
    (fun s _ => !(s.bound (.text "x")).isNil) (by decide +kernel)
  exact ⟨s₀, s, _, hstart, .perform .start hrun, by simpa using hx⟩

/-- After such a program. -/
theorem contexts_renew_sample : ∃ (s₀ s sb left : Session) (past : List Event),
    Session.start "context" = .ok s₀ ∧ Reached s₀ past s ∧
    (s.bound (.text "x")).isNil = false ∧
    (Command.setContext "two").Gives s statusOk sb ∧ sb.bound (.text "x") = s.bound (.text "x") ∧
    Command.destroy.Gives s statusOk left ∧ left.bound (.text "x") = .nil := by
  obtain ⟨s₀, s, past, hstart, hs, hx⟩ := exists_bound
  obtain ⟨-, -, sb, left, -, -, -, hsb, hleft, -, -, -, hkept, -, -, hunbound, -⟩ :=
    contexts_renew hstart hs "one" "two"
  refine ⟨s₀, s, sb, left, past, hstart, hs, hx, hsb, hkept _ fun name hmem heq => ?_, hleft,
    hunbound _⟩
  rw [Value.text_inj] at heq
  subst heq
  exact absurd hmem (by decide)

/-! ### Names -/

/-- Whatever the name of the context and whatever programs did before: once a context is given, programs
can call all functions that come with it under their names. The context is found under its own name
unless it is one of these; then the function is. -/
theorem context_found (hstart : Session.start contextName = .ok s₀) (h : Reached s₀ past s)
    (text : String) :
    ∃ s' : Session, (Command.setContext text).Gives s statusOk s' ∧
      (∀ e ∈ hostFns, s'.Calls e.1 e.2) ∧
      (contextName ∉ hostNames →
        (Command.getVariable contextName).Gives s' (lookupResult ⟨true, .str text⟩) s') ∧
      (contextName ∈ hostNames → ∃ id, s'.bound (.text contextName) = .func id) := by
  have hsound := h.sound hstart
  have hname := h.name_eq hstart
  refine ⟨s.setContext text, gives_setContext s text,
    fun e he => (Session.setContext_offers hsound text he).calls, fun hfree => ?_, fun hhost => ?_⟩
  · subst hname
    exact gives_getVariable fun o fuel =>
      Session.lookup_text o fuel (Session.bound_setContext_name hsound text hfree)
  · obtain ⟨e, he, rfl⟩ := List.mem_map.mp hhost
    obtain ⟨id, -, hbound, -⟩ := Session.setContext_offers hsound text he
    exact ⟨id, hbound⟩

/-- After a program that takes the name of a function. -/
theorem context_found_sample : ∃ (s₀ s s' : Session) (past : List Event),
    Session.start "context" = .ok s₀ ∧ Reached s₀ past s ∧
    (Command.setContext "text").Gives s statusOk s' ∧
    (Command.getVariable "context").Gives s' (lookupResult ⟨true, .str "text"⟩) s' ∧
    s'.Calls "get_line" (.utility .getLine) := by
  obtain ⟨s₀, s, past, hstart, hs, -⟩ := exists_bound
  obtain ⟨s', hs', hcalls, hfound, -⟩ := context_found hstart hs "text"
  exact ⟨s₀, s, s', past, hstart, hs, hs', hfound (by decide),
    hcalls ("get_line", .utility .getLine) (by decide)⟩

/-- The text that the function for texts makes of what a name is bound to, in an empty world. -/
def textUnder (s : Session) (name : String) : Option String :=
  match s.run serverOutside 400 (Session.textOf (s.bound (.text name))) (⟨"bridge", 0⟩, {}) with
  | (.ok (.ok (v :: _), _), _) => (toBytes? v).map Text.Utf8.decodeBytes
  | _ => none

/-- A name that is bound to a function is found with such a text. -/
theorem shows_textUnder {name shown : String} {id : Nat} (hbound : s.bound (.text name) = .func id)
    (h : textUnder s name = some shown) :
    ∃ s' w, perform serverOutside 400 s (.getVariable name) (⟨"bridge", 0⟩, {}) =
      (.ok (lookupResult ⟨true, .str shown⟩, s'), w) := by
  have hjson : s.mem.json? (.func id) = none := by
    have hform : s.mem.jsonFrom (s.mem.tables.size + 1) [] (.func id) = none := rfl
    rw [Mem.json?, hform, ite_self]
  rw [textUnder, hbound] at h
  rw [Session.bound] at hbound
  rcases hrun : s.run serverOutside 400 (Session.textOf (.func id)) (⟨"bridge", 0⟩, {}) with
    ⟨e | ⟨r, s'⟩, w⟩
  · rw [hrun] at h
    cases h
  refine ⟨s', w, ?_⟩
  rw [hrun] at h
  split at h
  · rename_i hr
    cases hr
    obtain ⟨t, ht, rfl⟩ := Option.map_eq_some_iff.mp h
    simp only [perform, Session.lookup, hbound, Session.present, hjson, bind, StateT.bind, hrun, ht]
    rfl
  · cases h

/-- Settings may give the context the name of a function. Then it is the function that is found. -/
theorem context_shadowed : Config.validate { contextName := "get_line" } = .ok () ∧
    ∃ (s₀ s s' : Session) (shown : String) (w : Bridge.Client × World),
      Session.start "get_line" = .ok s₀ ∧ (Command.setContext "abc").Gives s₀ statusOk s ∧
      perform serverOutside 400 s (.getVariable "get_line") (⟨"bridge", 0⟩, {}) =
        (.ok (lookupResult ⟨true, .str shown⟩, s'), w) ∧ shown ≠ "abc" := by
  refine ⟨(Config.validate_eq_ok_iff _).mpr (by decide), ?_⟩
  have h : (((Session.start "get_line").toOption.bind fun s₀ =>
      textUnder (s₀.setContext "abc") "get_line").map (· == "abc")) = some false := by
    decide +kernel
  rcases hstart : Session.start "get_line" with e | s₀
  · rw [hstart] at h
    cases h
  simp only [hstart, Except.toOption, Option.bind_some] at h
  obtain ⟨shown, hshown, hne⟩ := Option.map_eq_some_iff.mp h
  obtain ⟨id, -, hbound, -⟩ := Session.setContext_offers (Session.start_sound hstart) "abc"
    (e := ("get_line", .utility .getLine)) (by decide)
  obtain ⟨s', w, hs'⟩ := shows_textUnder hbound hshown
  exact ⟨s₀, _, s', shown, w, rfl, gives_setContext s₀ "abc", hs', by simpa using hne⟩

end LuaSession.Service
