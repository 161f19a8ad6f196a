import LuaSession.Bridge.Client
import LuaSession.Proofs.Correspondence
import LuaSession.Proofs.Stream.Writer
import LuaSession.Proofs.Wire.Envelope

/-!
# Calls and their replies

A client that makes calls one after the other, over streams that may end or fail anywhere. Each call
has a number of its own and takes at most one line; which outcome it has depends on that line alone.

* `call_of`: what one call does.
* `callAll_replies`: what any number of calls do.
-/

namespace LuaSession.Bridge

open LuaSession.Stream LuaSession.Wire

/-! ### What a line says -/

/-- A reply that is neither malformed nor for another id is the outcome of a response with the id. -/
theorem readReply_cases {id line : String} {out : Except BridgeError Json}
    (h : readReply id line = out) (hm : ∀ d, out ≠ .error (.malformed d))
    (hi : ∀ e a, out ≠ .error (.idMismatch e a)) :
    ∃ r, decodeResponse line.toList = .ok r ∧ r.id.text? = some id ∧
      out = r.outcome.mapError fun e => .remote e.code e.message := by
  unfold readReply at h
  split at h
  · exact absurd h.symm (hm _)
  · rename_i r hr
    split at h
    · rename_i hid
      refine ⟨r, hr, hid, ?_⟩
      rw [← h]
      cases r.outcome <;> rfl
    · exact absurd h.symm (hi _ _)

/-- An id that is a text is the one among the members. -/
theorem lookup_id {id : String} {v : Json} {members : List (String × Json)}
    (h : v = (Json.lookup "id" members).getD .null) (hid : v.text? = some id) :
    Json.lookup "id" members = some (.str id) := by
  rcases hlookup : Json.lookup "id" members with _ | w
  · rw [h, hlookup] at hid
    cases hid
  · rw [hlookup] at h
    cases h
    cases w <;> cases hid
    rfl

/-- A call comes to a value only by a line with its id, no error and that value as the result. -/
theorem readReply_ok {id line : String} {v : Json} (h : readReply id line = .ok v) :
    ∃ members, Json.parse line.toList = .ok (.obj members) ∧
      Json.lookup "id" members = some (.str id) ∧ Json.lookup "error" members = none ∧
      Json.lookup "result" members = some v := by
  obtain ⟨r, hr, hid, hout⟩ := readReply_cases h (by rintro _ ⟨⟩) (by rintro _ _ ⟨⟩)
  obtain ⟨members, hparse, hmember, hrest⟩ := decodeResponse_members hr
  rcases houtcome : r.outcome with e | u
  · rw [houtcome] at hout
    cases hout
  · rw [houtcome] at hout hrest
    cases hout
    exact ⟨members, hparse, lookup_id hmember hid, hrest⟩

/-- A call comes to an error of the host only by a line with its id and that error. -/
theorem readReply_remote {id line message : String} {code : Int}
    (h : readReply id line = .error (.remote code message)) :
    ∃ members error data, Json.parse line.toList = .ok (.obj members) ∧
      Json.lookup "id" members = some (.str id) ∧ Json.lookup "error" members = some error ∧
      RpcError.ofJson error = .ok ⟨code, message, data⟩ := by
  obtain ⟨r, hr, hid, hout⟩ := readReply_cases h (by rintro _ ⟨⟩) (by rintro _ _ ⟨⟩)
  obtain ⟨members, hparse, hmember, hrest⟩ := decodeResponse_members hr
  rcases houtcome : r.outcome with e | u
  · rw [houtcome] at hout hrest
    cases hout
    obtain ⟨error, herror, hread⟩ := hrest
    exact ⟨members, error, e.data, hparse, lookup_id hmember hid, herror, hread⟩
  · rw [houtcome] at hout
    cases hout

/-! ### One call -/

/-- A call: its request, what came of writing it, the line that was taken as the reply if one was, and
how the call ended. -/
structure Called where
  request : Wire.Request
  written : Except TransportError Unit
  reply : Option String
  outcome : Except BridgeError Json

variable {S : Type}

/-- What a client does in its next call. It writes one line with the next id. If that fails, nothing is
read; otherwise the first line that can be read is taken, if there is one. A value or an error of the
host comes only from such a line that has the id of the call. -/
structure Called.Of (w : Writer S) (c : Client) (l l' : Link S) (x : Called) : Prop where
  id : x.request.id = .str (c.callId (c.issued + 1))
  written : w.putLine x.request.encode l.outbound = (x.written, l'.outbound)
  unsent : ∀ e, x.written = .error e →
    x.reply = none ∧ l'.inbound = l.inbound ∧ x.outcome = .error (.io e.detail)
  taken : x.written = .ok () → l.inbound.readable = x.reply.toList ++ l'.inbound.readable
  missed : x.written = .ok () → x.reply = none → l.inbound.readable = [] ∧
    x.outcome = match l.inbound.failure with
      | some f => .error (.io f)
      | none => .error (.closed (c.callId (c.issued + 1)))
  value : ∀ v, x.outcome = .ok v → ∃ line members, x.reply = some line ∧
    Json.parse line.toList = .ok (.obj members) ∧ Json.lookup "id" members = some x.request.id ∧
    Json.lookup "error" members = none ∧ Json.lookup "result" members = some v
  remote : ∀ code message, x.outcome = .error (.remote code message) →
    ∃ line members error data, x.reply = some line ∧
      Json.parse line.toList = .ok (.obj members) ∧ Json.lookup "id" members = some x.request.id ∧
      Json.lookup "error" members = some error ∧
      RpcError.ofJson error = .ok ⟨code, message, data⟩

theorem logReply_eq (w : Writer S) (id : String) (reply : Except BridgeError Json) (l : Link S) :
    Client.logReply w.ports id reply l = ((), l) := by
  unfold Client.logReply
  split <;> rfl

/-- A call whose request is written ends as the line says that is read next. -/
theorem call_reads {w : Writer S} {c : Client} {id method : String} {params : Json} {l l' : Link S}
    {s : S} {line : String} (hid : c.callId (c.issued + 1) = id)
    (hput : w.putLine (Wire.Request.encode ⟨.str id, method, params⟩) l.outbound = (.ok (), s))
    (hread : w.ports.readLine ⟨l.inbound, s⟩ = (.ok (some line), l')) :
    c.call w.ports method params l =
      ((readReply id line, { c with issued := c.issued + 1 }), l') := by
  have hlog (e : Log.Event) (l : Link S) : w.ports.log e l = ((), l) := rfl
  have hwrite : w.ports.writeLine (Wire.Request.encode ⟨.str id, method, params⟩) l =
      (.ok (), ⟨l.inbound, s⟩) := by
    simp only [Writer.ports, hput]
  simp only [Client.call, bind, StateT.bind, pure, pure_stateT, hid, hlog, hwrite, hread, logReply_eq]

theorem call_of (w : Writer S) (c : Client) (method : String) (params : Json) (l : Link S) :
    ∃ (x : Called) (l' : Link S), c.call w.ports method params l =
        ((x.outcome, { c with issued := c.issued + 1 }), l') ∧
      x.request = ⟨.str (c.callId (c.issued + 1)), method, params⟩ ∧ x.Of w c l l' := by
  have hlog (e : Log.Event) (l : Link S) : w.ports.log e l = ((), l) := rfl
  generalize hid : c.callId (c.issued + 1) = id
  obtain ⟨inbound, s⟩ := l
  rcases hput : w.putLine (Wire.Request.encode ⟨.str id, method, params⟩) s with ⟨e | _, s'⟩
  · refine ⟨⟨⟨.str id, method, params⟩, .error e, none, .error (.io e.detail)⟩, ⟨inbound, s'⟩, ?_, rfl,
      ?_⟩
    · have hwrite : w.ports.writeLine (Wire.Request.encode ⟨.str id, method, params⟩)
          ⟨inbound, s⟩ = (.error e, ⟨inbound, s'⟩) := by
        simp only [Writer.ports, hput]
      simp only [Client.call, bind, StateT.bind, pure, pure_stateT, hid, hlog, hwrite]
    · exact ⟨by rw [hid], hput, by rintro _ ⟨⟩; exact ⟨rfl, rfl, rfl⟩, by rintro ⟨⟩, by rintro ⟨⟩,
        by rintro _ ⟨⟩, by rintro _ _ ⟨⟩⟩
  · have hwrite : w.ports.writeLine (Wire.Request.encode ⟨.str id, method, params⟩) ⟨inbound, s⟩ =
        (.ok (), ⟨inbound, s'⟩) := by
      simp only [Writer.ports, hput]
    obtain ⟨line, l', hread, hlines, hout⟩ | ⟨l', hread, hnone, hnone', hout⟩ :=
      Link.read_cases w ⟨inbound, s'⟩
    · refine ⟨⟨⟨.str id, method, params⟩, .ok (), some line, readReply id line⟩, l',
        call_reads hid hput hread, rfl, ?_⟩
      refine ⟨by rw [hid], by rw [hput, hout], by rintro _ ⟨⟩, fun _ => hlines, by rintro _ ⟨⟩,
        fun v hv => ?_, fun code message hv => ?_⟩
      · obtain ⟨members, h⟩ := readReply_ok hv
        exact ⟨line, members, rfl, h⟩
      · obtain ⟨members, error, data, h⟩ := readReply_remote hv
        exact ⟨line, members, error, data, rfl, h⟩
    · refine ⟨⟨⟨.str id, method, params⟩, .ok (), none,
        inbound.failure.elim (.error (.closed id)) fun f => .error (.io f)⟩, l', ?_, rfl, ?_⟩
      · simp only [Client.call, bind, StateT.bind, pure, hid, hlog, hwrite, hread]
        cases inbound.failure <;> rfl
      · refine ⟨by rw [hid], by rw [hput, hout], by rintro _ ⟨⟩, fun _ => ?_,
          fun _ _ => ⟨hnone, ?_⟩, ?_, ?_⟩
        · rw [hnone, hnone']
          rfl
        · rw [hid]
          cases inbound.failure <;> rfl
        · dsimp only
          cases inbound.failure <;> rintro _ ⟨⟩
        · dsimp only
          cases inbound.failure <;> rintro _ _ ⟨⟩

/-! ### Calls one after the other -/

/-- Makes calls one after the other. -/
def Client.callAll {m : Type → Type} [Monad m] (ports : Ports m) (c : Client) :
    List (String × Json) → m (List (Except BridgeError Json) × Client)
  | [] => return ([], c)
  | (method, params) :: rest => do
    let (r, c) ← c.call ports method params
    let (rs, c) ← c.callAll ports rest
    return (r :: rs, c)

/-- The calls that a client makes one after the other, each from where the one before it left the
streams; the client counts each of them. -/
inductive Calls (w : Writer S) : Client → Link S → List Called → Client → Link S → Prop
  | nil (c : Client) (l : Link S) : Calls w c l [] c l
  | cons {c c' : Client} {l l₁ l' : Link S} {x : Called} {calls : List Called} :
      x.Of w c l l₁ → Calls w { c with issued := c.issued + 1 } l₁ calls c' l' →
      Calls w c l (x :: calls) c' l'

namespace Calls

variable {w : Writer S} {c c' : Client} {l l' : Link S} {calls : List Called}

/-- The client keeps its prefix and has counted every call. -/
theorem client (h : Calls w c l calls c' l') : c' = { c with issued := c.issued + calls.length } := by
  induction h with
  | nil => rfl
  | @cons c c' l l₁ l' x calls _ _ ih =>
    rw [ih, List.length_cons, Nat.add_comm calls.length 1, ← Nat.add_assoc]

/-- The ids are the prefix with the numbers of the calls in order. -/
theorem ids (h : Calls w c l calls c' l') : calls.map (·.request.id) =
    (List.range' (c.issued + 1) calls.length).map fun n => .str (c.callId n) := by
  induction h with
  | nil => rfl
  | @cons c c' l l₁ l' x calls hx _ ih =>
    rw [List.map_cons, hx.id, ih, List.length_cons, List.range'_succ, List.map_cons]
    rfl

/-- One line is written for each call and nothing else. -/
theorem outbound (h : Calls w c l calls c' l') : l'.outbound =
    (calls.map (·.request.encode)).foldl (fun s line => (w.putLine line s).2) l.outbound := by
  induction h with
  | nil => rfl
  | @cons c c' l l₁ l' x calls hx _ ih => rw [ih, List.map_cons, List.foldl_cons, hx.written]

/-- Every line that is taken is taken by one call, and the others are left. -/
theorem readable (h : Calls w c l calls c' l') :
    l.inbound.readable = calls.filterMap (·.reply) ++ l'.inbound.readable := by
  induction h with
  | nil => rfl
  | @cons c c' l l₁ l' x calls hx _ ih =>
    have hfirst : l.inbound.readable = x.reply.toList ++ l₁.inbound.readable := by
      rcases hw : x.written with e | _
      · obtain ⟨hreply, hin, -⟩ := hx.unsent e hw
        rw [hreply, hin]
        rfl
      · exact hx.taken hw
    rw [hfirst, ih, ← List.append_assoc]
    cases hreply : x.reply with
    | none => rw [List.filterMap_cons_none hreply]; rfl
    | some line => rw [List.filterMap_cons_some hreply]; rfl

end Calls

theorem callAll_calls (w : Writer S) (c : Client) (asked : List (String × Json)) (l : Link S) :
    ∃ calls c' l', c.callAll w.ports asked l = ((calls.map (·.outcome), c'), l') ∧
      calls.map (fun x => (x.request.method, x.request.params)) = asked ∧
      Calls w c l calls c' l' := by
  induction asked generalizing c l with
  | nil => exact ⟨[], c, l, rfl, rfl, .nil c l⟩
  | cons a asked ih =>
    obtain ⟨method, params⟩ := a
    obtain ⟨x, l₁, hcall, hx, hof⟩ := call_of w c method params l
    obtain ⟨calls, c', l', hall, hasked, hcalls⟩ := ih { c with issued := c.issued + 1 } l₁
    refine ⟨x :: calls, c', l', ?_, ?_, .cons hof hcalls⟩
    · simp only [Client.callAll, bind, StateT.bind, pure, pure_stateT, hcall, hall, List.map_cons]
    · rw [List.map_cons, hasked, hx]

/-- A new client that makes any calls, over streams that may end or fail anywhere. The calls have the
numbers from 1 on, whatever becomes of them, and each writes the one line of its request; the lines
that are taken are the first that can be read, each by one call, and no call gets a value or an error
of the host from a line that has not its own id. -/
theorem callAll_replies (w : Writer S) (idPrefix : String) (asked : List (String × Json))
    (l : Link S) :
    ∃ calls l', Client.callAll w.ports ⟨idPrefix, 0⟩ asked l =
        ((calls.map (·.outcome), ⟨idPrefix, asked.length⟩), l') ∧
      calls.map (fun x => (x.request.method, x.request.params)) = asked ∧
      calls.map (·.request.id) = (List.range' 1 asked.length).map (fun n =>
        .str (idPrefix ++ ":" ++ String.ofList (Number.natChars n))) ∧
      l'.outbound = (calls.map (·.request.encode)).foldl (fun s line => (w.putLine line s).2)
        l.outbound ∧
      l.inbound.readable = calls.filterMap (·.reply) ++ l'.inbound.readable ∧
      Calls w ⟨idPrefix, 0⟩ l calls ⟨idPrefix, asked.length⟩ l' := by
  obtain ⟨calls, c', l', hall, hasked, hcalls⟩ := callAll_calls w ⟨idPrefix, 0⟩ asked l
  have hlength : calls.length = asked.length := by
    rw [← hasked, List.length_map]
  have hclient : c' = ⟨idPrefix, asked.length⟩ := by
    rw [hcalls.client, hlength, Nat.zero_add]
  subst hclient
  refine ⟨calls, l', hall, hasked, ?_, hcalls.outbound, hcalls.readable, hcalls⟩
  rw [hcalls.ids, hlength]
  rfl

end LuaSession.Bridge
