import LuaSession.Proofs.Service.Renewal

/-!
# Parameters that are no object

Every method takes its parameters as an object. A method that reads a member of them first looks whether
they are one, and a line that gives anything else is refused. Destroying a session reads no member and
does not look.

* `readCommand_refuses`: what a method that reads its parameters makes of others.
* `params_refused`: which of the methods refuse them, and what becomes of the session.
* `destroy_unchecked`: a session that is destroyed by a line with such parameters.
-/

namespace LuaSession.Service

open LuaSession.Lua LuaSession.Wire

variable {W : Type} {fields : List (String × Json)}

/-- The error that says that the parameters of a method are no object. -/
def refusal (method : Method) : RpcError where
  code := -32602
  message := "Invalid params: " ++ (method.name ++ ": params must be an object")

/-- A method that reads a member of its parameters takes no others than objects. -/
theorem readCommand_refuses {method : Method} {member : String} {required : Bool}
    {make : String → Command} (h : Reads method member required make) (id : Json) {params : Json}
    (hparams : ∀ ps, params ≠ .obj ps) :
    ∃ e, readCommand ⟨id, method.name, params⟩ = .error e ∧ e.toRpcError = refusal method := by
  refine ⟨.invalidParams (method.name ++ ": params must be an object"), ?_, rfl⟩
  rw [readCommand_reads h, textParam]
  cases params with
  | obj ps => exact absurd rfl (hparams ps)
  | null | bool | int | float | str | arr => rfl

/-- Every method but that which destroys reads a member of its parameters. -/
theorem exists_reads {method : Method} (h : method ≠ .destroy) :
    ∃ member required make, Reads method member required make := by
  cases method with
  | execute => exact ⟨_, _, _, .execute⟩
  | setContext => exact ⟨_, _, _, .setContext⟩
  | getVariable => exact ⟨_, _, _, .getVariable⟩
  | destroy => exact absurd rfl h

/-- The parameters of a request that gives some. -/
theorem paramsOf_given {v : Json} (h : Json.lookup "params" fields = some v) :
    paramsOf fields = v := by
  rw [paramsOf, h, Option.getD_some]

/-- A line that asks for one of the methods with parameters that are no object is answered at once, under
its id, and nothing is done outside but logging. The answer is the error for such parameters, and the
session is as it was, for every method but that which destroys: this one destroys the session. -/
theorem params_refused (o : Outside (StateM W)) (fuel : Nat) (s : Session) {line : String}
    {method : Method} {v : Json} (hline : Requests line.toList fields method.name)
    (hparams : Json.lookup "params" fields = some v) (hv : ∀ ps, v ≠ .obj ps) :
    ∃ response s' es,
      (∀ w, dispatchLine o fuel s line w = (.ok (response, s'), logged o es w)) ∧
      response.id = (Json.lookup "id" fields).getD .null ∧
      (response.outcome = .error (refusal method) ∧ s' = s ↔ method ≠ .destroy) ∧
      (method = .destroy → response.outcome = .ok statusOk ∧ s' = s.clear) := by
  have hdecode := decode_request hline
  by_cases hdestroy : method = .destroy
  · subst hdestroy
    refine ⟨⟨_, .ok statusOk⟩, s.clear,
      [received, ⟨.debug, Session.target, "context destroyed"⟩], fun w => ?_, rfl, ?_,
      fun _ => ⟨rfl, rfl⟩⟩
    · rw [dispatchLine, hdecode]
      rfl
    · refine iff_of_false ?_ fun hne => hne rfl
      rintro ⟨hrefused, -⟩
      cases hrefused
  · obtain ⟨member, required, make, hreads⟩ := exists_reads hdestroy
    obtain ⟨e, he, hrpc⟩ :=
      readCommand_refuses hreads ((Json.lookup "id" fields).getD .null) hv
    rw [← paramsOf_given hparams] at he
    obtain ⟨es, hes⟩ := dispatch_refused o fuel s he
    rw [hrpc] at hes
    refine ⟨⟨_, .error (refusal method)⟩, s, es, fun w => ?_, rfl,
      ⟨fun _ => hdestroy, fun _ => ⟨rfl, rfl⟩⟩, fun h => absurd h hdestroy⟩
    rw [dispatchLine, hdecode]
    exact hes w

/-- A line whose parameters are a list. -/
def listLine (method : Method) : String :=
  String.ofList ("\x7b\"id\":1,\"method\":".toList ++ Json.quote method.name.toList ++
    ",\"params\":[]\x7d".toList)

theorem requests_listLine (method : Method) : Requests (listLine method).toList
    [("id", .int 1), ("method", .str method.name), ("params", .arr [])] method.name := by
  refine ⟨Json.parse_iff.1 ?_, rfl⟩
  cases method <;> rfl

/-- A line that would run a program, in a new session and an empty world. -/
theorem params_refused_sample : ∃ (s₀ : Session) (w : Bridge.Client × World),
    Session.start "context" = .ok s₀ ∧
    dispatchLine serverOutside 400 s₀ (listLine .execute) (⟨"bridge", 0⟩, {}) =
      (.ok (⟨.int 1, .error (refusal .execute)⟩, s₀), w) := by
  obtain ⟨s₀, -, -, hstart, -⟩ := exists_bound
  obtain ⟨⟨id, outcome⟩, s', es, hline, hid, hrefused, -⟩ := params_refused serverOutside 400 s₀
    (requests_listLine .execute) rfl nofun
  obtain ⟨houtcome, rfl⟩ := hrefused.mpr nofun
  cases hid
  cases houtcome
  exact ⟨s', _, hstart, hline _⟩

/-- A session that has a context loses it by a line whose parameters are a list, and the answer is a
success. -/
theorem destroy_unchecked : ∃ (s₀ s left : Session) (w : Bridge.Client × World),
    Session.start "context" = .ok s₀ ∧ (Command.setContext "abc").Gives s₀ statusOk s ∧
    Requests (listLine .destroy).toList
      [("id", .int 1), ("method", .str "destroy"), ("params", .arr [])] "destroy" ∧
    dispatchLine serverOutside 400 s (listLine .destroy) (⟨"bridge", 0⟩, {}) =
      (.ok (⟨.int 1, .ok statusOk⟩, left), w) ∧
    s.text = "abc" ∧ left.text = "" := by
  obtain ⟨s₀, -, -, hstart, -⟩ := exists_bound
  have hrequest := requests_listLine .destroy
  have hid : idOf (listLine .destroy).toList = .int 1 := rfl
  have hline : dispatchLine serverOutside 400 (s₀.setContext "abc") (listLine .destroy)
      (⟨"bridge", 0⟩, {}) = _ := dispatchLine_asks (.destroy hrequest) _
  rw [hid] at hline
  exact ⟨s₀, s₀.setContext "abc", (s₀.setContext "abc").clear, _, hstart,
    gives_setContext s₀ "abc", hrequest, hline, Session.setContext_text s₀ "abc",
    Session.clear_text _⟩

end LuaSession.Service
