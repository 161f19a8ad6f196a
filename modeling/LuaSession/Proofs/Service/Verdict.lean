import LuaSession.Proofs.Json.Grammar
import LuaSession.Proofs.Service.Output

/-!
# What a line is answered

Which response a line gets, said without the reader, the decoder and the routing: by the value that
the line says as JSON, and by the members of that value. Every line has one verdict: a code of an
error, or success.

* `Asks`: the line is a request that asks for a command.
* `Verdict`: the code of the error, or success.
* `dispatchLine_verdict`: the response has the id of the line and the code of its verdict, and an
  error leaves the session as it was. No response comes only if evaluated code ends the process or
  does not end.
-/

namespace LuaSession.Service

open LuaSession.Lua LuaSession.Wire

/-! ### Verdicts -/

/-- The line is an object of these fields, among them a method that is a string. -/
def Requests (line : List Char) (fields : List (String × Json)) (method : String) : Prop :=
  Json.Text line (.obj fields) ∧ Json.lookup "method" fields = some (.str method)

/-- The member of the parameters that a method reads, whether it has to be there, and the command
that it gives. -/
inductive Reads : Method → String → Bool → (String → Command) → Prop
  | execute : Reads .execute "code" false .execute
  | setContext : Reads .setContext "context" false .setContext
  | getVariable : Reads .getVariable "name" true .getVariable

/-- The text that a request gives for a member of its parameters: a string, or nothing at all where
it may be missing. -/
inductive Given (fields : List (String × Json)) (member : String) : Bool → String → Prop
  | text {ps : List (String × Json)} {required : Bool} {text : String} :
      Json.lookup "params" fields = some (.obj ps) →
      Json.lookup member ps = some (.str text) → Given fields member required text
  | noMember {ps : List (String × Json)} : Json.lookup "params" fields = some (.obj ps) →
      Json.lookup member ps = none → Given fields member false ""
  | noParams : Json.lookup "params" fields = none → Given fields member false ""

/-- What a request gives for a member of its parameters is no text. -/
inductive Misgiven (fields : List (String × Json)) (member : String) : Bool → Prop
  | params {v : Json} {required : Bool} : Json.lookup "params" fields = some v →
      (∀ ps, v ≠ .obj ps) → Misgiven fields member required
  | member {ps : List (String × Json)} {v : Json} {required : Bool} :
      Json.lookup "params" fields = some (.obj ps) → Json.lookup member ps = some v →
      (∀ text, v ≠ .str text) → Misgiven fields member required
  | noMember {ps : List (String × Json)} : Json.lookup "params" fields = some (.obj ps) →
      Json.lookup member ps = none → Misgiven fields member true
  | noParams : Json.lookup "params" fields = none → Misgiven fields member true

/-- The line asks for a command. -/
inductive Asks (line : List Char) : Command → Prop
  | text {fields : List (String × Json)} {method : Method} {member text : String}
      {required : Bool} {make : String → Command} : Requests line fields method.name →
      Reads method member required make → Given fields member required text →
      Asks line (make text)
  | destroy {fields : List (String × Json)} : Requests line fields "destroy" → Asks line .destroy

/-- The code of the error that a line is answered with, or success. -/
inductive Verdict (line : List Char) : Option Int → Prop
  | noJson : (∀ v, ¬Json.Text line v) → Verdict line (some (-32700))
  | noRequest {v : Json} : Json.Text line v → (∀ fields method, ¬Requests line fields method) →
      Verdict line (some (-32600))
  | noMethod {fields : List (String × Json)} {method : String} : Requests line fields method →
      method ∉ ["execute", "initialize", "get_variable", "destroy"] →
      Verdict line (some (-32601))
  | noParams {fields : List (String × Json)} {method : Method} {member : String}
      {required : Bool} {make : String → Command} : Requests line fields method.name →
      Reads method member required make → Misgiven fields member required → Verdict line (some (-32602))
  | success {c : Command} : Asks line c → Verdict line none

/-- The id that a response to the line has: that of the object that the line is. -/
inductive Echoes (line : List Char) : Json → Prop
  | object {fields : List (String × Json)} : Json.Text line (.obj fields) →
      Echoes line ((Json.lookup "id" fields).getD .null)
  | other : (∀ fields, ¬Json.Text line (.obj fields)) → Echoes line .null

/-- The code of the error that a response carries. -/
def errorCode (r : Response) : Option Int :=
  match r.outcome with
  | .error e => some e.code
  | .ok _ => none

/-! ### Decoding -/

variable {line : List Char} {fields : List (String × Json)}

/-- The parameters of a request, an empty object where none are given. -/
def paramsOf (fields : List (String × Json)) : Json :=
  (Json.lookup "params" fields).getD (.obj [])

theorem decode_request {method : String} (h : Requests line fields method) :
    decodeRequest line =
      .ok ⟨(Json.lookup "id" fields).getD .null, method, paramsOf fields⟩ := by
  unfold decodeRequest
  rw [Json.parse_iff.2 h.1]
  dsimp only
  rw [h.2]
  rfl

theorem decode_noJson (h : ∀ v, ¬Json.Text line v) :
    ∃ e, decodeRequest line = .error (.parse e) := by
  unfold decodeRequest
  cases hp : Json.parse line with
  | error e => exact ⟨e, rfl⟩
  | ok v => exact absurd (Json.parse_iff.1 hp) (h v)

theorem decode_noRequest {v : Json} (hv : Json.Text line v)
    (h : ∀ fields method, ¬Requests line fields method) :
    ∃ id fault, decodeRequest line = .error (.invalidRequest id fault) := by
  unfold decodeRequest
  rw [Json.parse_iff.2 hv]
  cases v with
  | obj fields =>
    dsimp only
    cases hm : Json.lookup "method" fields with
    | none => exact ⟨_, _, rfl⟩
    | some method =>
      cases method with
      | str method => exact absurd ⟨hv, hm⟩ (h fields method)
      | null | bool | int | float | arr | obj => exact ⟨_, _, rfl⟩
  | null | bool | int | float | str | arr => exact ⟨_, _, rfl⟩

theorem textParam_given {member text : String} {required : Bool} (method : Method)
    (h : Given fields member required text) :
    textParam method member required (paramsOf fields) = .ok text := by
  unfold textParam paramsOf
  cases h with
  | text hps hm =>
    rw [hps]
    simp only [Option.getD_some, paramFields, bind, Except.bind, hm]
    rfl
  | noMember hps hm =>
    rw [hps]
    simp only [Option.getD_some, paramFields, bind, Except.bind, hm]
    rfl
  | noParams hps =>
    rw [hps]
    rfl

theorem textParam_misgiven {member : String} {required : Bool} (method : Method)
    (h : Misgiven fields member required) :
    ∃ d, textParam method member required (paramsOf fields) = .error (.invalidParams d) := by
  unfold textParam paramsOf
  cases h with
  | @params v required hps hv =>
    rw [hps, Option.getD_some]
    cases v with
    | obj ps => exact absurd rfl (hv ps)
    | null | bool | int | float | str | arr => exact ⟨_, rfl⟩
  | @member ps v required hps hm hv =>
    rw [hps]
    simp only [Option.getD_some, paramFields, bind, Except.bind, hm]
    cases v with
    | str text => exact absurd rfl (hv text)
    | null | bool | int | float | arr | obj => exact ⟨_, rfl⟩
  | noMember hps hm =>
    rw [hps]
    simp only [Option.getD_some, paramFields, bind, Except.bind, hm]
    exact ⟨_, rfl⟩
  | noParams hps =>
    rw [hps]
    exact ⟨_, rfl⟩

/-- A member is given or misgiven. -/
theorem given_or_misgiven (fields : List (String × Json)) (member : String) (required : Bool) :
    (∃ text, Given fields member required text) ∨ Misgiven fields member required := by
  cases hps : Json.lookup "params" fields with
  | none =>
    cases required with
    | false => exact .inl ⟨_, .noParams hps⟩
    | true => exact .inr (.noParams hps)
  | some v =>
    cases v with
    | obj ps =>
      cases hm : Json.lookup member ps with
      | none =>
        cases required with
        | false => exact .inl ⟨_, .noMember hps hm⟩
        | true => exact .inr (.noMember hps hm)
      | some v =>
        cases v with
        | str text => exact .inl ⟨text, .text hps hm⟩
        | null | bool | int | float | arr | obj => exact .inr (.member hps hm nofun)
    | null | bool | int | float | str | arr => exact .inr (.params hps nofun)

/-! ### One verdict for each line -/

/-- What the decoder and the routing make of a line: a command, or the code of an error. -/
def outcomeOf (line : List Char) : Except Int Command :=
  match decodeRequest line with
  | .error e => .error e.toRpcError.code
  | .ok r =>
    match readCommand r with
    | .error e => .error e.toRpcError.code
    | .ok c => .ok c

theorem outcomeOf_request {method : String} (h : Requests line fields method) :
    outcomeOf line =
      match readCommand ⟨(Json.lookup "id" fields).getD .null, method, paramsOf fields⟩ with
      | .error e => .error e.toRpcError.code
      | .ok c => .ok c := by
  unfold outcomeOf
  rw [decode_request h]

theorem readCommand_reads {method : Method} {member : String} {required : Bool}
    {make : String → Command} (h : Reads method member required make) (id params : Json) :
    readCommand ⟨id, method.name, params⟩ =
      (textParam method member required params).map make := by
  cases h <;> rfl

theorem outcomeOf_asks {c : Command} (h : Asks line c) : outcomeOf line = .ok c := by
  cases h with
  | @text _ method _ _ _ _ hr hreads hgiven =>
    rw [outcomeOf_request hr, readCommand_reads hreads, textParam_given method hgiven]
    rfl
  | destroy hr =>
    rw [outcomeOf_request hr]
    rfl

theorem ofName_none {n : String} (h : n ∉ ["execute", "initialize", "get_variable", "destroy"]) :
    Method.ofName? n = none := by
  simp only [List.mem_cons, List.not_mem_nil, or_false, not_or] at h
  obtain ⟨h₁, h₂, h₃, h₄⟩ := h
  rw [Method.ofName?, if_neg h₁, if_neg h₂, if_neg h₃, if_neg h₄]

/-- The verdict is what the decoder and the routing make of the line. -/
theorem Verdict.outcome {code : Option Int} (h : Verdict line code) :
    code = match outcomeOf line with
      | .error code => some code
      | .ok _ => none := by
  cases h with
  | noJson h =>
    obtain ⟨e, he⟩ := decode_noJson h
    rw [outcomeOf, he]
    rfl
  | noRequest hv h =>
    obtain ⟨id, fault, he⟩ := decode_noRequest hv h
    rw [outcomeOf, he]
    rfl
  | noMethod hr hm =>
    rw [outcomeOf_request hr, readCommand, ofName_none hm]
    rfl
  | @noParams _ method _ _ _ hr hreads hmis =>
    obtain ⟨d, hd⟩ := textParam_misgiven method hmis
    rw [outcomeOf_request hr, readCommand_reads hreads, hd]
    rfl
  | success h => rw [outcomeOf_asks h]

/-- Every line has a verdict. -/
theorem exists_verdict (line : List Char) : ∃ code, Verdict line code := by
  by_cases hjson : ∃ v, Json.Text line v
  · obtain ⟨v, hv⟩ := hjson
    by_cases hrequest : ∃ fields method, Requests line fields method
    · obtain ⟨fields, method, hr⟩ := hrequest
      have hreads {f : Method} {member : String} {required : Bool} {make : String → Command}
          (hr : Requests line fields f.name) (h : Reads f member required make) :
          ∃ code, Verdict line code := by
        obtain ⟨text, hgiven⟩ | hmis := given_or_misgiven fields member required
        · exact ⟨_, .success (.text hr h hgiven)⟩
        · exact ⟨_, .noParams hr h hmis⟩
      by_cases hm : method ∈ ["execute", "initialize", "get_variable", "destroy"]
      · simp only [List.mem_cons, List.not_mem_nil, or_false] at hm
        obtain rfl | rfl | rfl | rfl := hm
        · exact hreads (f := .execute) hr .execute
        · exact hreads (f := .setContext) hr .setContext
        · exact hreads (f := .getVariable) hr .getVariable
        · exact ⟨_, .success (.destroy hr)⟩
      · exact ⟨_, .noMethod hr hm⟩
    · exact ⟨_, .noRequest hv fun fields method hr => hrequest ⟨fields, method, hr⟩⟩
  · exact ⟨_, .noJson fun v hv => hjson ⟨v, hv⟩⟩

/-- A line has just one verdict: what the decoder and the routing make of it. -/
theorem verdict_iff {code : Option Int} : Verdict line code ↔
    code = match outcomeOf line with
      | .error code => some code
      | .ok _ => none := by
  refine ⟨Verdict.outcome, ?_⟩
  rintro rfl
  obtain ⟨code, h⟩ := exists_verdict line
  rw [← h.outcome]
  exact h

/-- What a line asks for is the command that is carried out. -/
theorem asks_iff {c : Command} : Asks line c ↔ outcomeOf line = .ok c := by
  refine ⟨outcomeOf_asks, fun hc => ?_⟩
  obtain ⟨code, hcode⟩ := exists_verdict line
  have hnone := hcode.outcome
  rw [hc] at hnone
  subst hnone
  cases hcode with
  | success h =>
    have heq := outcomeOf_asks h
    rw [hc] at heq
    cases heq
    exact h

/-- The id of a response is that of the object that the line is. -/
theorem echoes_idOf (line : List Char) : Echoes line (idOf line) := by
  unfold idOf
  cases hp : Json.parse line with
  | error e =>
    refine .other fun fields h => ?_
    rw [Json.parse_iff.2 h] at hp
    cases hp
  | ok v =>
    cases v with
    | obj fields => exact .object (Json.parse_iff.1 hp)
    | null | bool | int | float | str | arr =>
      refine .other fun fields h => ?_
      rw [Json.parse_iff.2 h] at hp
      cases hp

/-! ### Answers -/

section

variable {W : Type} {o : Outside (StateM W)} {fuel : Nat} {s : Session}

/-- Evaluated code ends the process in the middle of the command, or it does not end. -/
def Halts (o : Outside (StateM W)) (fuel : Nat) (s : Session) (h : Halt) : Command → Prop
  | .execute code => ∃ w, (s.execute o fuel code w).1 = .error h
  | .getVariable name => ∃ w, (s.lookup o fuel name w).1 = .error h
  | .setContext _ | .destroy => False

/-- A command gives a result unless it halts. -/
theorem perform_result (o : Outside (StateM W)) (fuel : Nat) (s : Session) (c : Command) (w : W) :
    (∃ h w', perform o fuel s c w = (.error h, w') ∧ Halts o fuel s h c) ∨
      ∃ result s' w', perform o fuel s c w = (.ok (result, s'), w') := by
  cases c with
  | execute code =>
    rcases hbefore : o.stopwatch w with ⟨before, w₁⟩
    rcases he : s.execute o fuel code w₁ with ⟨h | ⟨captured, s'⟩, w'⟩
    · refine .inl ⟨h, w', ?_, w₁, congrArg Prod.fst he⟩
      simp only [perform, bind, StateT.bind, pure, pure_stateT, hbefore, he]
    · rcases hafter : o.stopwatch w' with ⟨after, w₂⟩
      refine .inr ⟨executionResult captured (after - before), s', w₂, ?_⟩
      simp only [perform, bind, StateT.bind, pure, pure_stateT, hbefore, he, hafter]
  | getVariable name =>
    rcases he : s.lookup o fuel name w with ⟨h | ⟨found, s'⟩, w'⟩
    · refine .inl ⟨h, w', ?_, _, congrArg Prod.fst he⟩
      simp only [perform, bind, StateT.bind, pure, pure_stateT, he]
    · refine .inr ⟨lookupResult found, s', w', ?_⟩
      simp only [perform, bind, StateT.bind, pure, pure_stateT, he]
  | setContext text => exact .inr ⟨_, _, _, rfl⟩
  | destroy => exact .inr ⟨_, _, _, rfl⟩

theorem dispatch_ok {r : Wire.Request} {c : Command} (h : readCommand r = .ok c) (w : W) :
    (∃ e w', dispatch o fuel s r w = (.error e, w') ∧ Halts o fuel s e c) ∨
      ∃ result s' w', dispatch o fuel s r w = (.ok (⟨r.id, .ok result⟩, s'), w') := by
  rcases hlog : o.log ⟨.debug, target, "dispatching request"⟩ w with ⟨⟨⟩, w₁⟩
  obtain ⟨e, w', he, hhalts⟩ | ⟨result, s', w', he⟩ := perform_result o fuel s c w₁
  · refine .inl ⟨e, w', ?_, hhalts⟩
    simp only [dispatch, bind, StateT.bind, pure, pure_stateT, hlog, h, he]
  · refine .inr ⟨result, s', w', ?_⟩
    simp only [dispatch, bind, StateT.bind, pure, pure_stateT, hlog, h, he]

theorem dispatch_error {r : Wire.Request} {e : DispatchError} (h : readCommand r = .error e)
    (w : W) : ∃ w', dispatch o fuel s r w = (.ok (⟨r.id, .error e.toRpcError⟩, s), w') := by
  cases e <;> simp only [dispatch, bind, StateT.bind, h] <;> exact ⟨_, rfl⟩

/-- Every line is answered by a response, unless code that it asks for ends the process or does not
end. The response has the id of the line and the code of its verdict, and if that is an error the
session is as it was. -/
theorem dispatchLine_verdict (o : Outside (StateM W)) (fuel : Nat) (s : Session) (line : String)
    (w : W) :
    (∃ h c, (dispatchLine o fuel s line w).1 = .error h ∧ Asks line.toList c ∧
      Halts o fuel s h c) ∨
    ∃ response s', (dispatchLine o fuel s line w).1 = .ok (response, s') ∧
      Echoes line.toList response.id ∧
      (∀ code, errorCode response = code ↔ Verdict line.toList code) ∧
      (response.isError = true → s' = s) := by
  have hid := decodeRequest_id line.toList
  have hecho := echoes_idOf line.toList
  rw [← hid] at hecho
  have hverdict (code : Option Int) : Verdict line.toList code ↔ _ := verdict_iff
  unfold dispatchLine
  rcases hd : decodeRequest line.toList with e | r
  · rw [hd] at hecho
    refine .inr ⟨_, s, rfl, hecho, fun code => ?_, fun _ => rfl⟩
    rw [hverdict, outcomeOf, hd]
    exact eq_comm
  · rw [hd] at hecho
    dsimp only at hecho ⊢
    rcases hc : readCommand r with e | c
    · obtain ⟨w', hw⟩ : ∃ w', dispatch o fuel s r w = _ := dispatch_error hc w
      refine .inr ⟨_, s, congrArg Prod.fst hw, hecho, fun code => ?_, fun _ => rfl⟩
      rw [hverdict, outcomeOf, hd]
      dsimp only
      rw [hc]
      exact eq_comm
    · have hcommand : outcomeOf line.toList = .ok c := by
        rw [outcomeOf, hd]
        dsimp only
        rw [hc]
      obtain ⟨h, w', hw, hhalts⟩ | ⟨result, s', w', hw⟩ := dispatch_ok (s := s) hc w
      · exact .inl ⟨h, c, congrArg Prod.fst hw, asks_iff.2 hcommand, hhalts⟩
      · refine .inr ⟨_, s', congrArg Prod.fst hw, hecho, fun code => ?_, nofun⟩
        rw [hverdict, hcommand]
        exact eq_comm

end

/-! ### Lines that stand apart -/

/-- What a new session makes of a line: the code of the response, or how the run ended. -/
def firstAnswer (line : String) : Option (Halt ⊕ Option Int) :=
  (Session.start "context").toOption.map fun s =>
    match (dispatchLine serverOutside 400 s line (⟨"bridge", 0⟩, {})).1 with
    | .error h => .inl h
    | .ok (response, _) => .inr (errorCode response)

/-- Arrays in arrays. -/
def nested : Nat → List Char
  | 0 => ['[', ']']
  | n + 1 => '[' :: (nested n ++ [']'])

theorem nested_value (n : Nat) : ∃ v, Json.Value (n + 1) (nested n) v := by
  induction n with
  | zero => exact ⟨_, .inr (.array (t := []) (.inl ⟨Json.blank_nil, rfl⟩))⟩
  | succ n ih =>
    obtain ⟨v, hv⟩ := ih
    have hone : Json.Listed _ ([] ++ (_ ++ [])) [_] := .one Json.blank_nil hv Json.blank_nil
    rw [List.nil_append, List.append_nil] at hone
    exact ⟨_, .inr (.array (.inr hone))⟩

/-- What a client sends to end the process. -/
def exitLine : String :=
  "\x7b\"id\":1,\"method\":\"execute\",\"params\":\x7b\"code\":\"os.exit(3)\"\x7d\x7d"

/-- A program that ends the process is not answered. An array in 127 others, a numeral beyond every
double and half a surrogate pair are JSON as far as the grammar goes, and are answered as if they
were not. -/
theorem lines_apart :
    firstAnswer exitLine = some (.inl (.exit 3)) ∧
    (∃ v, Json.Value 128 (nested 127) v) ∧
    firstAnswer (String.ofList (nested 127)) = some (.inr (some (-32700))) ∧
    Json.Numeral "1e9999999999".toList ∧
    firstAnswer "1e9999999999" = some (.inr (some (-32700))) ∧
    firstAnswer "\"\\ud800\"" = some (.inr (some (-32700))) := by
  exact ⟨by decide +kernel, nested_value 127, by decide +kernel, Json.numeral_huge,
    by decide +kernel, by decide +kernel⟩

end LuaSession.Service
