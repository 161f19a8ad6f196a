import LuaSession.Proofs.Json.RoundTrip
import LuaSession.Wire.Envelope

/-!
# Envelopes that are read back

What an envelope says, and that a line which was written for a request says that request.

* `decodeRequest_encode`: requests, whatever their id, method and parameters.
* `Says`: a line that says an outcome for some id, in whatever form it is written.
* `decodeResponse_says`: such a line is read as just that.
* `decodeResponse_encode`: responses, with a result or with an error.
* `Request.chars_printable`, `Response.chars_printable`: an envelope stays on its line.
-/

namespace LuaSession.Wire

open Json

/-- The text and the parts of an envelope are exact, and it does not nest deeper than the reader goes. -/
structure Request.Exact (r : Request) : Prop where
  id : r.id.Exact
  params : r.params.Exact
  idDepth : r.id.depth < maxDepth
  paramsDepth : r.params.depth < maxDepth

theorem head_quote : "\x7b\"jsonrpc\":\"2.0\",\"id\":".toList = '\x7b' :: (quote "jsonrpc".toList ++
    ':' :: (quote "2.0".toList ++ ',' :: (quote "id".toList ++ [':']))) := by
  decide

theorem method_quote : ",\"method\":".toList = ',' :: (quote "method".toList ++ [':']) := by
  decide

theorem params_quote : ",\"params\":".toList = ',' :: (quote "params".toList ++ [':']) := by
  decide

/-- The line of a request is that of an object. -/
theorem Request.chars_fields (r : Request) :
    r.chars = '\x7b' :: fieldChars true
      [("jsonrpc", .str "2.0"), ("id", r.id), ("method", .str r.method), ("params", r.params)] := by
  unfold Request.chars head
  -- The fixed texts are made variables: they must not be compared character by character.
  have h1 := head_quote
  have h2 := method_quote
  have h3 := params_quote
  generalize "\x7b\"jsonrpc\":\"2.0\",\"id\":".toList = a at h1 ⊢
  generalize ",\"method\":".toList = b at h2 ⊢
  generalize ",\"params\":".toList = c at h3 ⊢
  subst h1 h2 h3
  simp only [fieldChars, Json.chars, List.append_assoc, List.cons_append, List.nil_append, if_true,
    Bool.false_eq_true, if_false]

/-- A request is read back from its line. -/
theorem decodeRequest_encode {r : Request} (h : r.Exact) :
    decodeRequest r.encode.toList = .ok r := by
  have hexact : ExactFields [("jsonrpc", .str "2.0"), ("id", r.id), ("method", .str r.method),
      ("params", r.params)] := ⟨trivial, h.id, trivial, h.params, trivial⟩
  have hdepth : depthFields [("jsonrpc", .str "2.0"), ("id", r.id), ("method", .str r.method),
      ("params", r.params)] < maxDepth := by
    have := h.idDepth
    have := h.paramsDepth
    simp only [depthFields, depth]
    omega
  have hparse := parse_exactFields hexact hdepth
  rw [Request.encode, String.toList_ofList, Request.chars_fields, decodeRequest, hparse]
  simp only [ofFields, List.foldl_cons, List.foldl_nil, lookup_insertField, Json.lookup]
  simp

/-! ### Responses -/

/-- What a line that is read as a response has among its members. -/
theorem decodeResponse_members {line : List Char} {r : Response} (h : decodeResponse line = .ok r) :
    ∃ members, Json.parse line = .ok (.obj members) ∧
      r.id = (Json.lookup "id" members).getD .null ∧
      match r.outcome with
      | .ok v => Json.lookup "error" members = none ∧ Json.lookup "result" members = some v
      | .error e => ∃ error, Json.lookup "error" members = some error ∧
        RpcError.ofJson error = .ok e := by
  unfold decodeResponse at h
  split at h
  · cases h
  · rename_i members hparse
    refine ⟨members, hparse, ?_⟩
    dsimp only at h
    split at h
    · rename_i error herror
      split at h
      · rename_i e hread
        cases h
        exact ⟨rfl, error, herror, hread⟩
      · cases h
    · rename_i herror
      split at h
      · rename_i v hresult
        cases h
        exact ⟨rfl, herror, hresult⟩
      · cases h
  · cases h

/-- A line that says an outcome for an id: an object with the id and the outcome among its fields. -/
def Says (line : String) (id : Json) (outcome : Except (Int × String) Json) : Prop :=
  ∃ fields, Json.parse line.toList = .ok (.obj fields) ∧ Json.lookup "id" fields = some id ∧
    match outcome with
    | .ok v => Json.lookup "error" fields = none ∧ Json.lookup "result" fields = some v
    | .error (code, message) => code < 0x8000000000000000 ∧ ∃ error,
      Json.lookup "error" fields = some (.obj error) ∧
        Json.lookup "code" error = some (.int code) ∧
        Json.lookup "message" error = some (.str message)

/-- An error object is read by its code and its message, whatever its data. -/
theorem RpcError.ofJson_fields {fields : List (String × Json)} {code : Int} {message : String}
    (hcode : code < 0x8000000000000000) (hc : Json.lookup "code" fields = some (.int code))
    (hm : Json.lookup "message" fields = some (.str message)) :
    ∃ data, RpcError.ofJson (.obj fields) = .ok ⟨code, message, data⟩ := by
  refine ⟨(Json.lookup "data" fields).bind readData, ?_⟩
  have hread : readI64 (.int code) = .ok code := if_pos hcode
  change (readMember readI64 (Json.lookup "code" fields)).bind (fun code =>
    (readMember readString (Json.lookup "message" fields)).bind _) = _
  rw [hc, hm]
  change ((readI64 (.int code)).map some).bind _ = _
  rw [hread]
  rfl

/-- Such a line is read as a response with the id and the outcome. -/
theorem decodeResponse_says {line : String} {id : Json} {outcome : Except (Int × String) Json}
    (h : Says line id outcome) : ∃ r, decodeResponse line.toList = .ok r ∧ r.id = id ∧
      r.outcome.mapError (fun e => (e.code, e.message)) = outcome := by
  obtain ⟨fields, hparse, hid, hout⟩ := h
  unfold decodeResponse
  rw [hparse]
  dsimp only
  rw [hid]
  rcases outcome with ⟨code, message⟩ | v
  · obtain ⟨hcode, error, herror, hc, hm⟩ := hout
    obtain ⟨data, he⟩ := RpcError.ofJson_fields hcode hc hm
    rw [herror]
    dsimp only
    rw [he]
    exact ⟨_, rfl, rfl, rfl⟩
  · obtain ⟨herror, hresult⟩ := hout
    rw [herror, hresult]
    exact ⟨_, rfl, rfl, rfl⟩

theorem result_quote : ",\"result\":".toList = ',' :: (quote "result".toList ++ [':']) := by
  decide

theorem error_quote : ",\"error\":".toList = ',' :: (quote "error".toList ++ [':']) := by
  decide

theorem code_quote : "\x7b\"code\":".toList = '\x7b' :: (quote "code".toList ++ [':']) := by
  decide

theorem message_quote : ",\"message\":".toList = ',' :: (quote "message".toList ++ [':']) := by
  decide

theorem data_quote : ",\"data\":".toList = ',' :: (quote "data".toList ++ [':']) := by
  decide

/-- The members of an error in the order in which they are written. -/
def RpcError.fields (e : RpcError) : List (String × Json) :=
  ("code", .int e.code) :: ("message", .str e.message) :: e.data.toList.map fun d => ("data", d)

/-- What is written for an error is an object. -/
theorem RpcError.chars_fields (e : RpcError) : e.chars = (Json.obj e.fields).chars := by
  unfold RpcError.chars RpcError.fields
  have h1 := code_quote
  have h2 := message_quote
  have h3 := data_quote
  generalize "\x7b\"code\":".toList = a at h1 ⊢
  generalize ",\"message\":".toList = b at h2 ⊢
  generalize ",\"data\":".toList = c at h3 ⊢
  subst h1 h2 h3
  cases e.data <;> simp [fieldChars, Json.chars]

/-- The members of a response in the order in which they are written. -/
def Response.fields (r : Response) : List (String × Json) :=
  [("jsonrpc", .str "2.0"), ("id", r.id),
    match r.outcome with
    | .ok v => ("result", v)
    | .error e => ("error", .obj e.fields)]

/-- The line of a response is that of an object. -/
theorem Response.chars_fields (r : Response) : r.chars = '\x7b' :: fieldChars true r.fields := by
  unfold Response.chars head Response.fields
  have h1 := head_quote
  have h2 := result_quote
  have h3 := error_quote
  generalize "\x7b\"jsonrpc\":\"2.0\",\"id\":".toList = a at h1 ⊢
  generalize ",\"result\":".toList = b at h2 ⊢
  generalize ",\"error\":".toList = c at h3 ⊢
  subst h1 h2 h3
  rcases r.outcome with e | v <;>
    simp only [RpcError.chars_fields, fieldChars, Json.chars, List.append_assoc, List.cons_append,
      List.nil_append, if_true, Bool.false_eq_true, if_false]

/-! ### Responses that are read back -/

/-- The code is one of 64 bits with a sign, the data is exact and does not nest too deep inside two
objects. -/
structure RpcError.Exact (e : RpcError) : Prop where
  low : -0x8000000000000000 ≤ e.code
  high : e.code < 0x8000000000000000
  data : ∀ d, e.data = some d → d.Exact
  dataDepth : ∀ d, e.data = some d → d.depth + 1 < maxDepth

/-- The parts of a response are exact, and it does not nest deeper than the reader goes. -/
structure Response.Exact (r : Response) : Prop where
  id : r.id.Exact
  idDepth : r.id.depth < maxDepth
  result : ∀ v, r.outcome = .ok v → v.Exact
  resultDepth : ∀ v, r.outcome = .ok v → v.depth < maxDepth
  error : ∀ e, r.outcome = .error e → e.Exact

/-- An error as it is read: data that is null is no data. -/
def RpcError.settled (e : RpcError) : RpcError :=
  { e with data := e.data.bind readData }

/-- A response as it is read. -/
def Response.settled (r : Response) : Response :=
  { r with outcome := r.outcome.mapError RpcError.settled }

theorem RpcError.Exact.fields {e : RpcError} (h : e.Exact) : ExactFields e.fields := by
  have hcode : (Json.int e.code).Exact := ⟨h.low, Int.lt_trans h.high (by decide)⟩
  obtain ⟨code, message, _ | d⟩ := e
  · exact ⟨hcode, trivial, trivial⟩
  · exact ⟨hcode, trivial, h.data d rfl, trivial⟩

theorem RpcError.Exact.depth {e : RpcError} (h : e.Exact) : depthFields e.fields + 1 < maxDepth := by
  obtain ⟨code, message, _ | d⟩ := e
  · exact Nat.lt_of_sub_pos (Nat.zero_lt_succ 125)
  · have := h.dataDepth d rfl
    simp only [RpcError.fields, Option.toList_some, List.map_cons, List.map_nil, depthFields,
      Json.depth]
    omega

theorem RpcError.lookup_fields (e : RpcError) (key : String) :
    Json.lookup key (e.fields.foldl (fun acc f => insertField f.1 f.2 acc) []) =
      if "data" = key ∧ e.data.isSome then e.data
      else if "message" = key then some (.str e.message)
      else if "code" = key then some (.int e.code) else none := by
  unfold RpcError.fields
  rcases e.data with _ | d <;>
    simp [List.foldl_cons, List.foldl_nil, lookup_insertField, Json.lookup]

/-- An error is read back from the object that is written for it. -/
theorem RpcError.ofJson_ofFields {e : RpcError} (h : e.Exact) :
    RpcError.ofJson (ofFields e.fields) = .ok e.settled := by
  have hcode : readI64 (.int e.code) = .ok e.code := if_pos h.high
  unfold ofFields
  change (readMember readI64 (Json.lookup "code" _)).bind (fun code =>
    (readMember readString (Json.lookup "message" _)).bind _) = _
  rw [RpcError.lookup_fields, RpcError.lookup_fields]
  change ((readI64 (.int e.code)).map some).bind _ = _
  rw [hcode]
  change Except.ok (⟨e.code, e.message, (Json.lookup "data" _).bind readData⟩ : RpcError) = _
  rw [RpcError.lookup_fields]
  unfold RpcError.settled
  rcases e.data with _ | d
  · rfl
  · rfl

/-- What is read of a member: the object that its fields make, in order. -/
def inOrder : Json → Json
  | .obj fields => ofFields fields
  | v => v

theorem inOrder_exact {v : Json} (h : v.Exact) : inOrder v = v := by
  cases v with
  | obj fields => exact ofFields_sorted h.1
  | null | bool | int | float | str | arr => rfl

/-- What is written for an error says the object with its members. -/
theorem RpcError.Exact.value {e : RpcError} (h : e.Exact) :
    Value (maxDepth - 1) (Json.obj e.fields).chars (ofFields e.fields) := by
  have hdepth : depthFields e.fields ≤ 125 := by
    have := h.depth
    rw [maxDepth] at this
    omega
  have hfields := value_fieldChars (g := fun v => v) (fieldValues_chars e.fields h.fields hdepth)
  rw [List.map_id'] at hfields
  exact hfields

theorem Response.Exact.values {r : Response} (h : r.Exact) :
    ∀ f ∈ r.fields, Value (maxDepth - 1) f.2.chars (inOrder f.2) := by
  have hexact {v : Json} (hv : v.Exact) (hd : v.depth < maxDepth) :
      Value (maxDepth - 1) v.chars (inOrder v) := by
    rw [inOrder_exact hv]
    exact value_chars v hv (Nat.le_sub_one_of_lt hd)
  refine List.forall_mem_cons.2 ⟨hexact trivial (Nat.zero_lt_succ 126), List.forall_mem_cons.2
    ⟨hexact h.id h.idDepth, List.forall_mem_singleton.2 ?_⟩⟩
  rcases hout : r.outcome with e | v
  · exact (h.error e hout).value
  · exact hexact (h.result v hout) (h.resultDepth v hout)

/-- The members of a response as they are read. -/
def Response.members (r : Response) : List (String × Json) :=
  (r.fields.map fun f => (f.1, inOrder f.2)).foldl (fun acc f => insertField f.1 f.2 acc) []

/-- The line of a response is read as the object with its members. -/
theorem Response.parse_encode {r : Response} (h : r.Exact) :
    parse r.encode.toList = .ok (.obj r.members) := by
  rw [Response.encode, String.toList_ofList, Response.chars_fields, parse_fieldChars h.values]
  rfl

theorem Response.lookup_members (r : Response) (key : String) : Json.lookup key r.members =
    match r.outcome with
    | .ok v => if "result" = key then some (inOrder v) else
      if "id" = key then some (inOrder r.id) else if "jsonrpc" = key then some (.str "2.0") else none
    | .error e => if "error" = key then some (ofFields e.fields) else
      if "id" = key then some (inOrder r.id) else if "jsonrpc" = key then some (.str "2.0") else none := by
  unfold Response.members Response.fields
  rcases r.outcome with e | v <;>
    simp only [List.map_cons, List.map_nil, List.foldl_cons, List.foldl_nil, lookup_insertField,
      Json.lookup, inOrder]

/-- A response is read back from its line, but for data that is null. -/
theorem decodeResponse_encode {r : Response} (h : r.Exact) :
    decodeResponse r.encode.toList = .ok r.settled := by
  unfold decodeResponse
  rw [Response.parse_encode h]
  dsimp only
  simp only [Response.lookup_members]
  obtain ⟨id, e | v⟩ := r
  · have hsettled : Response.settled ⟨id, .error e⟩ = ⟨id, .error e.settled⟩ := rfl
    dsimp only
    simp [RpcError.ofJson_ofFields (h.error e rfl), inOrder_exact h.id, hsettled]
  · have hsettled : Response.settled ⟨id, .ok v⟩ = ⟨id, .ok v⟩ := rfl
    simp [inOrder_exact h.id, inOrder_exact (h.result v rfl), hsettled]

/-- The line of a response says its outcome for its id. -/
theorem Response.says_encode {r : Response} (h : r.Exact) :
    Says r.encode r.id (r.outcome.mapError fun e => (e.code, e.message)) := by
  refine ⟨r.members, Response.parse_encode h, ?_, ?_⟩
  · rw [Response.lookup_members, inOrder_exact h.id]
    rcases r.outcome with e | v <;> simp
  · obtain ⟨id, e | v⟩ := r
    · refine ⟨(h.error e rfl).high, e.fields.foldl (fun acc f => insertField f.1 f.2 acc) [],
        ?_, ?_, ?_⟩
      · rw [Response.lookup_members]
        rfl
      · rw [RpcError.lookup_fields]
        simp
      · rw [RpcError.lookup_fields]
        simp
    · refine ⟨?_, ?_⟩
      · rw [Response.lookup_members]
        simp
      · rw [Response.lookup_members]
        simp [inOrder_exact (h.result v rfl)]

/-- A response has a result or an error, and never both. -/
theorem Response.lookup_outcome (r : Response) :
    (Json.lookup "result" r.members).isSome = !(Json.lookup "error" r.members).isSome := by
  rw [Response.lookup_members, Response.lookup_members]
  rcases r.outcome with e | v <;> simp

/-! ### Envelopes stay on their line -/

/-- What is written for a request stays on its line. -/
theorem Request.chars_printable {r : Request} (h : r.Exact) : ∀ c ∈ r.chars, Printable c := by
  rw [Request.chars_fields]
  exact obj_printable (fieldValues_printable _ ⟨trivial, h.id, trivial, h.params, trivial⟩)

/-- What is written for a response stays on its line. -/
theorem Response.chars_printable {r : Response} (h : r.Exact) : ∀ c ∈ r.chars, Printable c := by
  rw [Response.chars_fields]
  refine obj_printable (List.forall_mem_cons.2 ⟨Json.chars_printable (.str "2.0") trivial,
    List.forall_mem_cons.2 ⟨Json.chars_printable r.id h.id, List.forall_mem_singleton.2 ?_⟩⟩)
  rcases hout : r.outcome with e | v
  · exact obj_printable (fieldValues_printable _ (h.error e hout).fields)
  · exact Json.chars_printable v (h.result v hout)

end LuaSession.Wire
