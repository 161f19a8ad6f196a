import LuaSession.Proofs.Json.Members
import LuaSession.Proofs.Json.Significant
import LuaSession.Proofs.Service.Renewal

/-!
# Ids that are integers

The id of a response is that of its request as far as JSON values go, and these hold integers of 64 bits
only. So a larger id comes back as the double that was read for it, which says the same integer only if
its written form does, and an id beyond every double makes the whole line unreadable.

* `HasId`, `Carries`: the integer that a line has for its id, and that a response carries.
* `idOf_integer`: what becomes of an id that is an integer.
* `ids_carried`: which integers come back.
* `id_changed`: one that does not.
-/

namespace LuaSession.Service

open LuaSession.Lua LuaSession.Wire

/-- The line is an object whose id is an integer, of any size, and whose other members are values. -/
def HasId (line : List Char) (n : Int) : Prop :=
  ∃ t, Json.Shows line "id" t ∧ Json.Integer t ∧ Json.Denotes t n

/-- How the line of a response begins, up to its id. -/
def opening : List Char := "\x7b\"jsonrpc\":\"2.0\",\"id\":".toList

/-- The line of a response carries an id that says the integer. -/
def Carries (line : List Char) (n : Int) : Prop :=
  ∃ t rest, line = opening ++ (t ++ ',' :: rest) ∧ ',' ∉ t ∧ Json.Denotes t n

/-! ### Lines with an id -/

/-- A member that asks for the context to be forgotten. -/
def destroyMember : List Char := "\"method\":\"destroy\"".toList

/-- A request to forget the context, with an id that is written as the text. -/
def destroyLine (id : String) : String :=
  String.ofList ('\x7b' :: ("\"id\":".toList ++ id.toList ++ ',' :: destroyMember ++ ['\x7d']))

theorem shows_destroyLine (id : String) : Json.Shows (destroyLine id).toList "id" id.toList := by
  have hnone : Json.Blank [] := nofun
  have hid : Json.Member ("\"id\":".toList ++ id.toList) ("id", id.toList) :=
    ⟨"id".toList, "id".toList, [], [], .of_all (by decide), hnone, hnone, rfl, rfl⟩
  have hmethod : Json.Member destroyMember ("method", "\"destroy\"".toList) :=
    ⟨"method".toList, "method".toList, [], [], .of_all (by decide), hnone, hnone, rfl, rfl⟩
  have hvalue : Json.Value (Json.maxDepth - 1) "\"destroy\"".toList (.str "destroy") :=
    .inl (.string (t := "destroy".toList) (.of_all (by decide)))
  have hmembers : Json.Listed Json.Member ("\"id\":".toList ++ id.toList ++ ',' :: destroyMember)
      [("id", id.toList), ("method", "\"destroy\"".toList)] := by
    simpa only [List.nil_append, List.append_nil] using
      Json.Listed.more hnone hid hnone (Json.Listed.one hnone hmethod hnone)
  refine ⟨[], [], _, [], [("method", "\"destroy\"".toList)], hnone, hnone, ?text, .inr hmembers, ?values,
    ?after⟩
  case text =>
    rw [List.nil_append, List.append_nil]
    exact String.toList_ofList
  case values =>
    intro f hf
    obtain rfl := List.mem_singleton.mp hf
    exact ⟨_, hvalue⟩
  case after =>
    intro f hf
    obtain rfl := List.mem_singleton.mp hf
    decide

/-! ### Ids -/

/-- What becomes of an id that is an integer: what is read of it, or null where nothing is. -/
theorem idOf_integer {line t : List Char} {n : Int} (hline : Json.Shows line "id" t)
    (ht : Json.Integer t) (hn : Json.Denotes t n) :
    idOf line = (Json.integerValue? t n).getD .null := by
  cases hv : Json.integerValue? t n with
  | some v =>
    obtain ⟨fields, htext, hfound⟩ := hline.text (ht.value hn hv _)
    rw [idOf, Json.parse_iff.mpr htext]
    dsimp only
    rw [hfound]
  | none =>
    have hunread : ∀ v, ¬Json.Text line v := by
      refine hline.unread fun rest hr => ?_
      have hread := Json.value_integer ht hn (Json.maxDepth - 1) hr
      rw [hv] at hread
      cases hvalue : Json.value (Json.maxDepth - 1) (t ++ rest) with
      | error f => exact ⟨f, rfl⟩
      | ok p =>
        rw [hvalue] at hread
        cases hread
    unfold idOf
    cases hp : Json.parse line with
    | error e => rfl
    | ok v => exact absurd (Json.parse_iff.mp hp) (hunread v)

/-- Zero with a sign is read as a double, which still says zero. -/
example : (idOf (destroyLine "-0").toList).chars = "-0.0".toList := by decide +kernel

/-- No comma is written in a number, nor in null. -/
theorem comma_notMem_integerValue (t : List Char) (n : Int) :
    ',' ∉ ((Json.integerValue? t n).getD .null).chars := by
  have hfloat (x : Float) : ',' ∉ Json.floatChars x := by
    cases hx : Number.isFinite x with
    | true => exact Json.notMem_of_figures (by decide) (Json.floatChars_figures hx)
    | false =>
      rw [Json.floatChars_of_not_finite hx]
      decide
  unfold Json.integerValue?
  split
  · exact hfloat (-(Float.ofNat 0))
  · split
    · exact Json.notMem_of_figures (by decide) (Json.intChars_figures n)
    · cases Json.roundedInt? n with
      | none => decide
      | some x => exact hfloat x

/-- What stands in front of the first comma. -/
theorem takeWhile_comma {t : List Char} (ht : ',' ∉ t) (rest : List Char) :
    (t ++ ',' :: rest).takeWhile (· != ',') = t := by
  rw [List.takeWhile_append_of_pos, List.takeWhile_cons_of_neg (by decide), List.append_nil]
  intro c hc
  simpa using fun h : c = ',' => ht (h ▸ hc)

/-- The line of a response, up to the comma after its id. -/
theorem chars_opening (r : Response) : ∃ rest, r.chars = opening ++ (r.id.chars ++ ',' :: rest) := by
  have hhead : head r.id = opening ++ r.id.chars := rfl
  have hresult : ",\"result\":".toList = ',' :: "\"result\":".toList := rfl
  have herror : ",\"error\":".toList = ',' :: "\"error\":".toList := rfl
  unfold Response.chars
  cases r.outcome with
  | ok v =>
    dsimp only
    rw [hhead, hresult, List.append_assoc, List.append_assoc, List.append_assoc, List.cons_append]
    exact ⟨_, rfl⟩
  | error e =>
    dsimp only
    rw [hhead, herror, List.append_assoc, List.append_assoc, List.append_assoc, List.cons_append]
    exact ⟨_, rfl⟩

/-- A response carries what its id says. -/
theorem carries_iff {r : Response} (hcomma : ',' ∉ r.id.chars) (n : Int) :
    Carries r.encode.toList n ↔ Json.Denotes r.id.chars n := by
  obtain ⟨rest, hrest⟩ := chars_opening r
  unfold Carries
  rw [Response.encode, String.toList_ofList, hrest]
  constructor
  · rintro ⟨t, rest', heq, ht, hn⟩
    have hsame := congrArg (List.takeWhile (· != ',')) (List.append_cancel_left heq)
    rw [takeWhile_comma hcomma, takeWhile_comma ht] at hsame
    exact hsame ▸ hn
  · exact fun hn => ⟨_, rest, rfl, hcomma, hn⟩

/-- A response with the id of a line carries what is written for the integer that the line has. -/
theorem carries_idOf {line t : List Char} {n : Int} (hline : Json.Shows line "id" t)
    (ht : Json.Integer t) (hn : Json.Denotes t n) {r : Response} (hr : r.id = idOf line) (m : Int) :
    Carries r.encode.toList m ↔ Json.Denotes ((Json.integerValue? t n).getD .null).chars m := by
  rw [idOf_integer hline ht hn] at hr
  have hcomma : ',' ∉ r.id.chars := by
    rw [hr]
    exact comma_notMem_integerValue t n
  rw [carries_iff hcomma, hr]

/-! ### Answers -/

section

variable {W : Type}

/-- Every line gets a response with the id of the line, unless code that it asks for ends the process or
does not end. -/
theorem dispatchLine_id (o : Outside (StateM W)) (fuel : Nat) (s : Session) (line : String) (w : W) :
    (∃ h c, (dispatchLine o fuel s line w).1 = .error h ∧ Asks line.toList c ∧ Halts o fuel s h c) ∨
    ∃ response s', (dispatchLine o fuel s line w).1 = .ok (response, s') ∧
      response.id = idOf line.toList := by
  have hid := decodeRequest_id line.toList
  by_cases hasks : ∃ c, Asks line.toList c
  · obtain ⟨c, hc⟩ := hasks
    rw [dispatchLine_asks hc]
    obtain ⟨h, w', hw, hhalts⟩ | ⟨result, s', w', hw⟩ :=
      perform_result o fuel s c (logged o [received] w)
    · rw [hw]
      exact .inl ⟨h, c, rfl, hc, hhalts⟩
    · rw [hw]
      exact .inr ⟨_, s', rfl, rfl⟩
  · right
    rcases hd : decodeRequest line.toList with e | r
    · rw [hd] at hid
      rw [dispatchLine, hd]
      exact ⟨_, s, rfl, hid⟩
    · rw [hd] at hid
      rcases hr : readCommand r with e | c
      · obtain ⟨es, hes⟩ := dispatch_refused o fuel s hr
        rw [dispatchLine, hd]
        dsimp only
        rw [hes]
        exact ⟨_, s, rfl, hid⟩
      · refine absurd ⟨c, asks_iff.mpr ?_⟩ hasks
        rw [outcomeOf, hd]
        dsimp only
        rw [hr]

/-- **Which ids come back.** A line whose id is an integer gets a response, unless code that it asks for
ends the process or does not end. The response carries the integer just if that is kept; it is if it has 64
bits, and an integer that has not must have seventeen digits at most, but for zeros at its end. -/
theorem ids_carried (o : Outside (StateM W)) (fuel : Nat) (s : Session) {line : String} {n : Int}
    (hid : HasId line.toList n) (w : W) :
    (∃ h c, (dispatchLine o fuel s line w).1 = .error h ∧ Asks line.toList c ∧ Halts o fuel s h c) ∨
    ∃ response s', (dispatchLine o fuel s line w).1 = .ok (response, s') ∧
      (Carries response.encode.toList n ↔ Json.Kept n) ∧
      (Json.Fits n → Carries response.encode.toList n) ∧
      (Carries response.encode.toList n → Json.Fits n ∨ Json.Significant 17 n) := by
  obtain ⟨t, hline, ht, hn⟩ := hid
  obtain hhalts | ⟨response, s', hresponse, hsame⟩ := dispatchLine_id o fuel s line w
  · exact .inl hhalts
  · have hcarries : Carries response.encode.toList n ↔ Json.Kept n :=
      (carries_idOf hline ht hn hsame n).trans (Json.denotes_integerValue hn)
    refine .inr ⟨response, s', hresponse, hcarries, fun hfits => ?_, fun hback => ?_⟩
    · exact hcarries.mpr (.inl hfits)
    · exact (hcarries.mp hback).significant

end

/-! ### One id that is kept, and one that is not -/

/-- An id beyond 64 bits that comes back, as a power of ten. -/
theorem ids_carried_sample : ∃ (s₀ left : Session) (response : Response),
    Session.start "context" = .ok s₀ ∧
    HasId (destroyLine "100000000000000000000").toList (10 ^ 20) ∧
    (dispatchLine serverOutside 400 s₀ (destroyLine "100000000000000000000") (⟨"bridge", 0⟩, {})).1 =
      .ok (response, left) ∧
    Carries response.encode.toList (10 ^ 20) := by
  obtain ⟨s₀, -, -, hstart, -⟩ := exists_bound
  have hid : HasId (destroyLine "100000000000000000000").toList (10 ^ 20) :=
    ⟨_, shows_destroyLine _, Json.integer_iff.mpr (.inl (by decide))⟩
  have hasks : Asks (destroyLine "100000000000000000000").toList .destroy :=
    asks_iff.mpr rfl
  have hkept : Json.Kept (10 ^ 20) := by decide
  obtain ⟨h, c, -, hc, hhalts⟩ | ⟨response, left, hresponse, hcarries, -, -⟩ :=
    ids_carried serverOutside 400 s₀ hid (⟨"bridge", 0⟩, {})
  · cases (asks_iff.mp hc).symm.trans (asks_iff.mp hasks)
    exact hhalts.elim
  · exact ⟨s₀, left, response, hstart, hid, hresponse, hcarries.mpr hkept⟩

/-- A larger id comes back as another integer, that of its double. -/
theorem id_changed : ∃ (s₀ left : Session) (response : Response),
    Session.start "context" = .ok s₀ ∧
    HasId (destroyLine "18446744073709551617").toList 18446744073709551617 ∧
    (dispatchLine serverOutside 400 s₀ (destroyLine "18446744073709551617") (⟨"bridge", 0⟩, {})).1 =
      .ok (response, left) ∧
    Carries response.encode.toList 18446744073709552000 ∧
    ¬Carries response.encode.toList 18446744073709551617 := by
  obtain ⟨s₀, -, -, hstart, -⟩ := exists_bound
  have hshows := shows_destroyLine "18446744073709551617"
  obtain ⟨hinteger, hdenotes⟩ :
      Json.Integer "18446744073709551617".toList ∧
        Json.Denotes "18446744073709551617".toList 18446744073709551617 :=
    Json.integer_iff.mpr (.inl (by decide))
  have hasks : Asks (destroyLine "18446744073709551617").toList .destroy :=
    asks_iff.mpr rfl
  have hline : dispatchLine serverOutside 400 s₀ (destroyLine "18446744073709551617")
      (⟨"bridge", 0⟩, {}) = _ := dispatchLine_asks hasks _
  refine ⟨s₀, _, _, hstart, ⟨_, hshows, hinteger, hdenotes⟩, congrArg Prod.fst hline, ?_, ?_⟩
  · rw [carries_idOf hshows hinteger hdenotes rfl]
    decide
  · rw [carries_idOf hshows hinteger hdenotes rfl]
    decide

end LuaSession.Service
