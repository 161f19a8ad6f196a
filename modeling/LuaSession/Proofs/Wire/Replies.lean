import LuaSession.Proofs.Json.Contents
import LuaSession.Proofs.Wire.Envelope

/-!
# What a line says as a response

Which lines the decoder takes for a response, and for which one, said by the values of their JSON and
without the decoder. An error is an object of a code, a message and data. The decoder also takes an
array of these for one; about such a line nothing is said here but that it is taken.

* `Answers`: the response that a line says.
* `decodeResponse_answers`: the decoder tells responses, lines that are not JSON and all others apart.
* `lists_accepted`: an error in the form of an array is taken.
-/

namespace LuaSession.Wire

/-! ### Errors -/

/-- The error that an object says: a code, which is an integer of 64 bits with a sign, a message, and the
data unless they are null. -/
structure Fails (members : List (String × Json)) (e : RpcError) : Prop where
  code : Json.lookup "code" members = some (.int e.code)
  bounds : -0x8000000000000000 ≤ e.code ∧ e.code < 0x8000000000000000
  message : Json.lookup "message" members = some (.str e.message)
  data : ∀ d, e.data = some d ↔ Json.lookup "data" members = some d ∧ d ≠ .null

/-- An array of a code, a message and perhaps data. -/
inductive Lists : Json → Prop
  | short {code : Int} {message : String} : code < 0x8000000000000000 →
      Lists (.arr [.int code, .str message])
  | long {code : Int} {message : String} {data : Json} : code < 0x8000000000000000 →
      Lists (.arr [.int code, .str message, data])

theorem readData_eq_some {v d : Json} : readData v = some d ↔ v = d ∧ d ≠ .null := by
  cases v with
  | null =>
    refine ⟨nofun, ?_⟩
    rintro ⟨rfl, hne⟩
    exact absurd rfl hne
  | bool | int | float | str | arr | obj =>
    refine ⟨?_, fun h => congrArg some h.1⟩
    rintro ⟨⟩
    exact ⟨rfl, nofun⟩

theorem readI64_eq_ok {v : Json} {n : Int} :
    readI64 v = .ok n ↔ v = .int n ∧ n < 0x8000000000000000 := by
  cases v with
  | int k =>
    rw [readI64]
    split
    · rename_i hk
      refine ⟨?_, ?_⟩
      · rintro ⟨⟩
        exact ⟨rfl, hk⟩
      · rintro ⟨⟨⟩, -⟩
        rfl
    · rename_i hk
      refine ⟨nofun, ?_⟩
      rintro ⟨⟨⟩, hn⟩
      exact absurd hn hk
  | null | bool | float | str | arr | obj => exact ⟨nofun, nofun⟩

theorem readString_eq_ok {v : Json} {s : String} : readString v = .ok s ↔ v = .str s := by
  cases v with
  | str t =>
    refine ⟨?_, ?_⟩
    all_goals
      rintro ⟨⟩
      rfl
  | null | bool | int | float | arr | obj => exact ⟨nofun, nofun⟩

/-- A member that has to be there is read just if it is there and has the form that is read. -/
theorem need_readMember {α : Type} (read : Json → Except ShapeFault α) (name : String)
    {v : Option Json} {a : α} :
    (readMember read v).bind (need name) = .ok a ↔ ∃ u, v = some u ∧ read u = .ok a := by
  cases v with
  | none => exact ⟨nofun, nofun⟩
  | some u =>
    rw [readMember]
    cases hu : read u with
    | error e =>
      refine ⟨nofun, ?_⟩
      rintro ⟨_, ⟨⟩, h⟩
      cases hu.symm.trans h
    | ok b =>
      refine ⟨?_, ?_⟩
      · rintro ⟨⟩
        exact ⟨u, rfl, hu⟩
      · rintro ⟨_, ⟨⟩, h⟩
        cases hu.symm.trans h
        rfl

/-- An object is read by its code, its message and its data, each for itself. -/
theorem ofJson_members {members : List (String × Json)} {e : RpcError} :
    RpcError.ofJson (.obj members) = .ok e ↔
      (readMember readI64 (Json.lookup "code" members)).bind (need "code") = .ok e.code ∧
      (readMember readString (Json.lookup "message" members)).bind (need "message") =
        .ok e.message ∧
      e.data = (Json.lookup "data" members).bind readData := by
  obtain ⟨code, message, data⟩ := e
  rw [RpcError.ofJson]
  generalize readMember readI64 (Json.lookup "code" members) = codeRead
  generalize readMember readString (Json.lookup "message" members) = messageRead
  constructor
  · intro h
    rcases codeRead with fault | _ | c
    · cases h
    · rcases messageRead with fault | _ | m <;> cases h
    · rcases messageRead with fault | _ | m
      · cases h
      · cases h
      · cases h
        exact ⟨rfl, rfl, rfl⟩
  · rintro ⟨hcode, hmessage, rfl⟩
    rcases codeRead with fault | _ | c
    · cases hcode
    · cases hcode
    · rcases messageRead with fault | _ | m
      · cases hmessage
      · cases hmessage
      · cases hcode
        cases hmessage
        rfl

/-- An object is read as an error just if it says that error. -/
theorem ofJson_obj {members : List (String × Json)} {e : RpcError}
    (hlow : ∀ n, Json.lookup "code" members = some (.int n) → -0x8000000000000000 ≤ n) :
    RpcError.ofJson (.obj members) = .ok e ↔ Fails members e := by
  have hdata (d : Json) : (Json.lookup "data" members).bind readData = some d ↔
      Json.lookup "data" members = some d ∧ d ≠ .null := by
    rw [Option.bind_eq_some_iff]
    constructor
    · rintro ⟨v, hv, hd⟩
      obtain ⟨rfl, hne⟩ := readData_eq_some.mp hd
      exact ⟨hv, hne⟩
    · rintro ⟨hd, hne⟩
      exact ⟨d, hd, readData_eq_some.mpr ⟨rfl, hne⟩⟩
  rw [ofJson_members, need_readMember, need_readMember]
  constructor
  · rintro ⟨⟨code, hcode, hread⟩, ⟨message, hmessage, htext⟩, hd⟩
    obtain ⟨rfl, hhigh⟩ := readI64_eq_ok.mp hread
    obtain rfl := readString_eq_ok.mp htext
    exact ⟨hcode, ⟨hlow _ hcode, hhigh⟩, hmessage, fun d => by rw [hd, hdata]⟩
  · rintro ⟨hcode, hbounds, hmessage, hd⟩
    refine ⟨⟨_, hcode, readI64_eq_ok.mpr ⟨rfl, hbounds.2⟩⟩,
      ⟨_, hmessage, readString_eq_ok.mpr rfl⟩, Option.ext fun d => ?_⟩
    rw [hd, hdata]

/-- What is read as an error and is no object lists one. -/
theorem lists_of_ofJson {v : Json} {e : RpcError} (h : RpcError.ofJson v = .ok e) :
    (∃ members, v = .obj members) ∨ Lists v := by
  cases v with
  | obj members => exact .inl ⟨members, rfl⟩
  | arr items =>
    right
    rcases items with _ | ⟨c, _ | ⟨m, rest⟩⟩
    · cases h
    · simp only [RpcError.ofJson, bind, Except.bind] at h
      cases hc : readI64 c <;> rw [hc] at h <;> cases h
    · simp only [RpcError.ofJson, bind, Except.bind] at h
      rcases hc : readI64 c with err | code
      · rw [hc] at h
        cases h
      rw [hc] at h
      dsimp only at h
      rcases hm : readString m with err | message
      · rw [hm] at h
        cases h
      rw [hm] at h
      dsimp only at h
      obtain ⟨rfl, hcode⟩ := readI64_eq_ok.mp hc
      obtain rfl := readString_eq_ok.mp hm
      rcases rest with _ | ⟨d, _ | ⟨d', rest⟩⟩
      · exact .short hcode
      · exact .long hcode
      · cases h
  | null | bool | int | float | str => cases h

theorem ofJson_lists {v : Json} (h : Lists v) : ∃ e, RpcError.ofJson v = .ok e := by
  cases h with
  | short hcode | long hcode =>
    rw [RpcError.ofJson, readI64_eq_ok.mpr ⟨rfl, hcode⟩]
    exact ⟨_, rfl⟩

/-! ### Lines -/

/-- The response that a line says. A failure is an object with an error that is an object, a success is
an object with a result and no error; both have the id of the line, null where it has none. -/
inductive Answers (line : List Char) : Response → Prop
  | failure {fields members : List (String × Json)} {e : RpcError} : Json.Text line (.obj fields) →
      Json.lookup "error" fields = some (.obj members) → Fails members e →
      Answers line ⟨(Json.lookup "id" fields).getD .null, .error e⟩
  | success {fields : List (String × Json)} {v : Json} : Json.Text line (.obj fields) →
      Json.lookup "error" fields = none → Json.lookup "result" fields = some v →
      Answers line ⟨(Json.lookup "id" fields).getD .null, .ok v⟩

/-- The line is an object whose error is an array of a code, a message and perhaps data. -/
def ListsError (line : List Char) : Prop :=
  ∃ fields v, Json.Text line (.obj fields) ∧ Json.lookup "error" fields = some v ∧ Lists v

variable {line : List Char} {fields : List (String × Json)}

/-- The code of an error that is read is an integer of 64 bits. -/
theorem code_bounds {members : List (String × Json)} {n : Int} (h : Json.Text line (.obj fields))
    (herror : Json.lookup "error" fields = some (.obj members))
    (hcode : Json.lookup "code" members = some (.int n)) : -0x8000000000000000 ≤ n := by
  obtain ⟨w, t, w', -, ht, -, rfl⟩ := h
  obtain ⟨_, u, -, hu⟩ := ht.field (Json.mem_of_lookup herror)
  obtain ⟨_, u', -, hu'⟩ := hu.field (Json.mem_of_lookup hcode)
  exact hu'.bounds.1

/-- A line that says a response is an object. -/
theorem Answers.text {r : Response} (h : Answers line r) : ∃ v, Json.Text line v := by
  cases h with
  | failure htext | success htext => exact ⟨_, htext⟩

/-- A line that says a response is read as this. -/
theorem Answers.decode {r : Response} (h : Answers line r) : decodeResponse line = .ok r := by
  unfold decodeResponse
  cases h with
  | failure htext herror hfails =>
    have hread := (ofJson_obj fun n => code_bounds htext herror).mpr hfails
    rw [Json.parse_iff.2 htext]
    dsimp only
    rw [herror]
    dsimp only
    rw [hread]
  | success htext herror hresult =>
    rw [Json.parse_iff.2 htext]
    dsimp only
    rw [herror, hresult]

/-- A line that is read as a response says this, unless its error is an array. -/
theorem answers_of_decode {r : Response} (hlist : ¬ListsError line)
    (h : decodeResponse line = .ok r) : Answers line r := by
  obtain ⟨fields, hparse, hid, hout⟩ := decodeResponse_members h
  have htext := Json.parse_iff.1 hparse
  obtain ⟨id, outcome⟩ := r
  obtain rfl : id = _ := hid
  cases outcome with
  | error e =>
    obtain ⟨v, herror, hread⟩ := hout
    obtain ⟨members, rfl⟩ | hv := lists_of_ofJson hread
    · exact .failure htext herror ((ofJson_obj fun n => code_bounds htext herror).mp hread)
    · exact absurd ⟨fields, v, htext, herror, hv⟩ hlist
  | ok v => exact .success htext hout.1 hout.2

/-- A line is a response, or no JSON, or JSON that is no response. -/
theorem decodeResponse_error {e : ProtocolError} (h : decodeResponse line = .error e) :
    ((∃ fault, e = .parse fault) ∧ ∀ v, ¬Json.Text line v) ∨
      (∃ fault, e = .invalidResponse fault) ∧ ∃ v, Json.Text line v := by
  unfold decodeResponse at h
  cases hparse : Json.parse line with
  | error fault =>
    rw [hparse] at h
    cases h
    refine .inl ⟨⟨fault, rfl⟩, fun v hv => ?_⟩
    rw [Json.parse_iff.2 hv] at hparse
    cases hparse
  | ok v =>
    rw [hparse] at h
    refine .inr ⟨?_, v, Json.parse_iff.1 hparse⟩
    cases v with
    | obj fields =>
      dsimp only at h
      split at h
      · split at h
        · cases h
        · cases h
          exact ⟨_, rfl⟩
      · split at h
        · cases h
        · cases h
          exact ⟨_, rfl⟩
    | null | bool | int | float | str | arr =>
      cases h
      exact ⟨_, rfl⟩

/-- Unless the error of a line is an array: the line is read as the response that it says, it is refused
as no JSON if it is none, and it is refused as no response in all other cases. -/
theorem decodeResponse_answers (h : ¬ListsError line) :
    (∀ r, decodeResponse line = .ok r ↔ Answers line r) ∧
    ((∃ fault, decodeResponse line = .error (.parse fault)) ↔ ∀ v, ¬Json.Text line v) ∧
    ((∃ fault, decodeResponse line = .error (.invalidResponse fault)) ↔
      (∃ v, Json.Text line v) ∧ ∀ r, ¬Answers line r) := by
  have hok (r : Response) : decodeResponse line = .ok r ↔ Answers line r :=
    ⟨answers_of_decode h, Answers.decode⟩
  refine ⟨hok, ?_⟩
  cases hdecode : decodeResponse line with
  | ok r =>
    have hr : Answers line r := (hok r).mp hdecode
    obtain ⟨v, hv⟩ := hr.text
    refine ⟨⟨nofun, fun hno => absurd hv (hno v)⟩, ⟨nofun, ?_⟩⟩
    rintro ⟨-, hno⟩
    exact absurd hr (hno r)
  | error e =>
    have hno (r : Response) : ¬Answers line r := by
      intro hr
      rw [hr.decode] at hdecode
      cases hdecode
    obtain ⟨⟨fault, rfl⟩, hjson⟩ | ⟨⟨fault, rfl⟩, v, hv⟩ := decodeResponse_error hdecode
    · refine ⟨⟨fun _ => hjson, fun _ => ⟨fault, rfl⟩⟩, ⟨nofun, ?_⟩⟩
      rintro ⟨⟨v, hv⟩, -⟩
      exact absurd hv (hjson v)
    · exact ⟨⟨nofun, fun hjson => absurd hv (hjson v)⟩,
        ⟨fun _ => ⟨⟨v, hv⟩, hno⟩, fun _ => ⟨fault, rfl⟩⟩⟩

/-- A line whose error is an array is read as a failure, although it says no response. -/
theorem lists_accepted (h : ListsError line) :
    ∃ id e, decodeResponse line = .ok ⟨id, .error e⟩ ∧ ∀ r, ¬Answers line r := by
  obtain ⟨fields, v, htext, herror, hv⟩ := h
  obtain ⟨e, hread⟩ := ofJson_lists hv
  have hdecode : decodeResponse line =
      .ok ⟨(Json.lookup "id" fields).getD .null, .error e⟩ := by
    unfold decodeResponse
    rw [Json.parse_iff.2 htext]
    dsimp only
    rw [herror]
    dsimp only
    rw [hread]
  refine ⟨_, e, hdecode, fun r hr => ?_⟩
  cases hr with
  | @failure fields' members e htext' herror' =>
    cases htext'.unique htext
    rw [herror'] at herror
    cases herror
    cases hv
  | @success fields' v htext' herror' =>
    cases htext'.unique htext
    rw [herror'] at herror
    cases herror

/-- A failure as hosts send it. -/
def failureLine : String :=
  "\x7b\"id\":\"b\",\"error\":\x7b\"code\":-1,\"message\":\"m\"\x7d\x7d"

theorem decodeResponse_answers_sample : ¬ListsError failureLine.toList ∧
    decodeResponse failureLine.toList = .ok ⟨.str "b", .error ⟨-1, "m", none⟩⟩ := by
  have htext : Json.Text failureLine.toList (.obj [("error",
      .obj [("code", .int (-1)), ("message", .str "m")]), ("id", .str "b")]) :=
    Json.parse_iff.1 rfl
  have hlist : ¬ListsError failureLine.toList := by
    rintro ⟨fields, v, htext', herror, hv⟩
    cases htext'.unique htext
    cases herror
    cases hv
  refine ⟨hlist, ((decodeResponse_answers hlist).1 _).mpr (.failure htext rfl ?_)⟩
  exact ⟨rfl, by decide, rfl, fun d => ⟨nofun, fun h => nomatch h.1⟩⟩

/-- A line whose error is an array. -/
def arrayLine : String :=
  "\x7b\"id\":\"b\",\"error\":[1,\"m\"]\x7d"

/-- An array is taken for an error, and a numeral beyond every double is answered as if it were not
JSON. -/
theorem replies_apart :
    Json.Text arrayLine.toList
      (.obj [("error", .arr [.int 1, .str "m"]), ("id", .str "b")]) ∧
    decodeResponse arrayLine.toList = .ok ⟨.str "b", .error ⟨1, "m", none⟩⟩ ∧
    Json.Numeral "1e9999999999".toList ∧
    ∃ fault, decodeResponse "1e9999999999".toList = .error (.parse fault) := by
  exact ⟨Json.parse_iff.1 rfl, rfl, Json.numeral_huge, _, rfl⟩

end LuaSession.Wire
