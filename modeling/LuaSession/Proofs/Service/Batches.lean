import LuaSession.Proofs.Bridge.Answers
import LuaSession.Proofs.Bridge.Calls
import LuaSession.Proofs.Service.Extracting
import LuaSession.Proofs.Service.Host

/-!
# Batches of prompts

A program that asks the host with a sequence of texts gets a sequence of as many texts. One request is
sent for all of them, with the texts in their order, and what comes back is told by the reply to it.

* `looseTexts_eq`: the texts that are read from a table.
* `leads_batch`: what a run does from the call on.
* `batch_answered`: the request, the reply and the sequence that the program gets.
-/

namespace LuaSession

open LuaSession.Lua

namespace Lua

/-- The texts that a table lists are read from it. -/
theorem looseTexts_eq {m : Mem} {id : Nat} {prompts : List String}
    (h : (m.table id).Lists (prompts.map .text)) (rest : List Value) (site : Site) (path : String)
    (k : List String → Mem → Step) :
    HostFn.looseTexts ⟨.table id :: rest, site, path⟩ 1 k m = k prompts m := by
  have htext (s : String) : toBytes? (.text s) = some (bytes s) := rfl
  have hall (f : Value → Task String) (hf : ∀ s, f (.text s) = pure s) (ss : List String) :
      (ss.map Value.text).mapM f = pure ss := by
    induction ss with
    | nil => rfl
    | cons s ss ih => rw [List.map_cons, List.mapM_cons, hf, ih, pure_bind, pure_bind]
  unfold HostFn.looseTexts
  change (List.mapM (m := Task) _ (Mem.sequence (m.table id))) k m = _
  rw [h.sequence, hall]
  · rfl
  · intro s
    rw [htext]
    exact congrArg pure (Text.Utf8.decodeBytes_toUTF8 s)

variable {W : Type} {o : Outside (StateM W)}

/-! ### Requests in a run -/

theorem next?_log {context : String} (fuel : Nat) (sink : Sink) (x : Machine) (e : Log.Event)
    (k : Unit → Mem → Step) (m : Mem) (w : W) :
    (⟨fuel + 1, sink, x, .ask (.log e) k m, w⟩ : Running W).next? o context =
      some ⟨fuel, sink, x, k () m, (o.log e w).2⟩ := rfl

theorem next?_ask {context method : String} {params : Json} {r : Except BridgeError Json} {w w' : W}
    (h : o.ask method params w = (r, w')) (fuel : Nat) (sink : Sink) (x : Machine)
    (k : Except BridgeError Json → Mem → Step) (m : Mem) :
    (⟨fuel + 1, sink, x, .ask (.ask method params) k m, w⟩ : Running W).next? o context =
      some ⟨fuel, sink, x, k r m, w'⟩ := by
  simp only [Running.next?, Machine.advance, Request.answer, bind, StateT.bind, pure, h]
  rfl

/-! ### The call -/

/-- A note for the log that a batch is sent. -/
def batchNote : Log.Event := ⟨.debug, HostFn.askTarget, "batch_llm_query"⟩

/-- The parameters of a request for a batch. -/
def batchParams (prompts : List String) : Json :=
  Json.ofFields [("prompts", .arr (prompts.map .str))]

/-- What the call gives: a new table of the strings that the reply becomes. -/
def batchGiven (v : Json) (n : Nat) (m : Mem) : Step :=
  .leave (.give [.table m.tables.size])
    (m.newTable (Table.ofList ((Bridge.answers v n).map .text))).2

/-- What follows when a call with a sequence of texts is entered: a note, one request, and then the
strings that the reply becomes, perhaps after another note. -/
theorem enters_batch {id : Nat} {m : Mem} {prompts : List String}
    (h : (m.table id).Lists (prompts.map .text)) (rest : List Value) (site : Site) :
    ∃ k, Machine.enterBuiltin (.host (.callback .batchLlmQuery)) (.table id :: rest) site m =
        .ask (.log batchNote)
          (fun _ m => .ask (.ask Bridge.batchMethod (batchParams prompts)) k m) m.atRest ∧
      ∀ v m, k (.ok v) m = batchGiven v prompts.length m ∨
        ∃ e, k (.ok v) m = .ask (.log e) (fun _ m => batchGiven v prompts.length m) m := by
  refine ⟨_, looseTexts_eq (m := m.atRest) h rest site
    (Builtin.path (.host (.callback .batchLlmQuery))) _, fun v m => ?_⟩
  dsimp only [pure]
  cases v with
  | arr items =>
    dsimp only
    split
    · exact .inr ⟨_, rfl⟩
    · exact .inl rfl
  | null | bool | int | float | str | obj => exact .inr ⟨_, rfl⟩

/-- A run that has come to a call with a sequence of texts makes one request. When it gets a value, the
run comes to the end of the call with the strings that the value becomes. Nothing else is done outside
but logging. -/
theorem leads_batch (context : String) {u : Running W} {id : Nat} {rest : List Value} {site : Site} {m : Mem}
    {y : Machine} {prompts : List String} {r : Except BridgeError Json} {w : W} (hfuel : 4 ≤ u.fuel)
    (henters : u.machine.advance u.step = .step (Machine.enterBuiltin
      (.host (.callback .batchLlmQuery)) (.table id :: rest) site m) y)
    (hprompts : (m.table id).Lists (prompts.map .text))
    (hreply : o.ask Bridge.batchMethod (batchParams prompts)
      (Service.logged o [batchNote] u.world) = (r, w)) :
    ∃ fuel s, Running.Leads o context u ⟨fuel, u.sink, y, s, w⟩ ∧
      ∀ v, r = .ok v → ∃ fuel es, Running.Leads o context u
        ⟨fuel, u.sink, y, batchGiven v prompts.length m.atRest, Service.logged o es w⟩ := by
  obtain ⟨fuel, sink, x, s, w₀⟩ := u
  obtain ⟨fuel, rfl⟩ : ∃ n, fuel = n + 4 := ⟨fuel - 4, by dsimp only at hfuel; omega⟩
  dsimp only at henters hreply ⊢
  obtain ⟨k, henter, hk⟩ := enters_batch hprompts rest site
  rw [henter] at henters
  have hentered : (⟨fuel + 4, sink, x, s, w₀⟩ : Running W).next? o context =
      some ⟨fuel + 3, sink, y, .ask (.log batchNote)
        (fun _ m => .ask (.ask Bridge.batchMethod (batchParams prompts)) k m) m.atRest, w₀⟩ := by
    simp only [Running.next?, henters]
  have hstart : Running.Leads o context ⟨fuel + 4, sink, x, s, w₀⟩ ⟨fuel + 4, sink, x, s, w₀⟩ :=
    .refl _
  have hreplied := ((hstart.next hentered).next (next?_log ..)).next (next?_ask hreply ..)
  refine ⟨_, _, hreplied, fun v hv => ?_⟩
  rw [hv] at hreplied
  obtain hgiven | ⟨e, hnoted⟩ := hk v m.atRest
  · rw [hgiven] at hreplied
    exact ⟨_, [], hreplied⟩
  · rw [hnoted] at hreplied
    exact ⟨_, [e], hreplied.next (next?_log ..)⟩

end Lua

namespace Service

open LuaSession.Bridge LuaSession.Stream LuaSession.Wire

variable {S : Type}

/-- What is put in the log leaves the client and the streams alone. -/
theorem logged_link (wr : Writer S) (q : Surroundings (StateM (Link S))) (es : List Log.Event)
    (w : Client × Link S) : logged (paired (outside wr.ports q)) es w = w := by
  induction es with
  | nil => rfl
  | cons e es ih => exact ih

/-- A value that a call comes to was read from a line, below its outermost level. -/
theorem called_value {wr : Writer S} {c : Client} {l l' : Link S} {x : Called} {v : Json}
    (h : x.Of wr c l l') (hv : x.outcome = .ok v) :
    ∃ depth t, Json.Value depth t v ∧ depth ≤ Json.maxDepth := by
  obtain ⟨line, members, -, hparse, -, -, hresult⟩ := h.value v hv
  obtain ⟨_, t, _, -, ht, -, -⟩ := Json.parse_iff.mp hparse
  obtain ⟨below, u, hdepth, hu⟩ := ht.field (Json.mem_of_lookup hresult)
  exact ⟨below, u, hu, by omega⟩

/-- A call whose request is written ends in what the next line says as the reply to it. -/
theorem outcome_of_says {wr : Writer S} {c : Client} {l l' : Link S} {x : Called} {method : String}
    {params : Json} {line : String} {lines : List String} {outcome : Except (Int × String) Json}
    (hcall : c.call wr.ports method params l = ((x.outcome, { c with issued := c.issued + 1 }), l'))
    (hrequest : x.request = ⟨.str (c.callId (c.issued + 1)), method, params⟩) (hof : x.Of wr c l l')
    (hlines : l.inbound.readable = line :: lines) (hwritten : x.written = .ok ())
    (htold : Says line x.request.id outcome) : x.outcome = Host.told outcome := by
  have hput := hof.written
  rw [hwritten, hrequest] at hput
  rw [hof.id] at htold
  obtain ⟨line', l₁, hread, hreadable, -⟩ | ⟨_, -, hnone, -⟩ :=
    Link.read_cases wr ⟨l.inbound, l'.outbound⟩
  · have hsame := hlines.symm.trans hreadable
    rw [List.cons.injEq] at hsame
    rw [call_reads rfl hput hread, ← hsame.1, readReply_says htold] at hcall
    exact (congrArg (fun r => r.1.1) hcall).symm
  · cases hlines.symm.trans hnone

/-- **A batch is answered prompt by prompt.** A run that has come to a call with a sequence of texts sends
one request, with the texts in their order, which the host can read, and the outcome is what the next
line says as the reply to it. When that is a value, the call gives a table of exactly as many strings,
which are told by the value: each by its own element if it is an array of that length, and otherwise all
by the whole. -/
theorem batch_answered (wr : Writer S) (q : Surroundings (StateM (Link S))) (context : String)
    {u : Running (Client × Link S)} {id : Nat} {rest : List Lua.Value} {site : Site} {m : Mem}
    {y : Machine} {prompts : List String} (hfuel : 4 ≤ u.fuel)
    (henters : u.machine.advance u.step = .step (Machine.enterBuiltin
      (.host (.callback .batchLlmQuery)) (.table id :: rest) site m) y)
    (hprompts : (m.table id).Lists (prompts.map .text)) :
    ∃ (x : Called) (l : Link S), x.request = ⟨.str (u.world.1.callId (u.world.1.issued + 1)),
        batchMethod, .obj [("prompts", .arr (prompts.map .str))]⟩ ∧
      decodeRequest x.request.encode.toList = .ok x.request ∧ x.Of wr u.world.1 u.world.2 l ∧
      (∃ fuel s, Running.Leads (paired (outside wr.ports q)) context u
        ⟨fuel, u.sink, y, s, ({ u.world.1 with issued := u.world.1.issued + 1 }, l)⟩) ∧
      (∀ line lines outcome, u.world.2.inbound.readable = line :: lines → x.written = .ok () →
        Says line x.request.id outcome → x.outcome = Host.told outcome) ∧
      ∀ v, x.outcome = .ok v → ∃ fuel m' strings,
        Running.Leads (paired (outside wr.ports q)) context u ⟨fuel, u.sink, y,
          .leave (.give [.table m.tables.size]) m',
          ({ u.world.1 with issued := u.world.1.issued + 1 }, l)⟩ ∧
        (m'.table m.tables.size).Lists (strings.map .text) ∧ Answered v prompts.length strings := by
  obtain ⟨x, l, hcall, hrequest, hof⟩ := call_of wr u.world.1 batchMethod (batchParams prompts) u.world.2
  have hreply : (paired (outside wr.ports q)).ask batchMethod (batchParams prompts)
      (logged (paired (outside wr.ports q)) [batchNote] u.world) =
        (x.outcome, ({ u.world.1 with issued := u.world.1.issued + 1 }, l)) := by
    rw [logged_link, ← Prod.mk.eta (p := u.world), paired_ask, hcall]
  obtain ⟨fuel, s, hleads, hgives⟩ := leads_batch context hfuel henters hprompts hreply
  have hexact := maySend_exact (f := .batchLlmQuery) ⟨rfl, prompts, rfl⟩
  refine ⟨x, l, hrequest, ?_, hof, ⟨fuel, s, hleads⟩,
    fun _ _ _ => outcome_of_says hcall hrequest hof, fun v hv => ?_⟩
  · rw [hrequest]
    exact decodeRequest_encode ⟨trivial, hexact.1, Nat.zero_lt_succ 126,
      Nat.lt_of_le_of_lt hexact.2 (by decide)⟩
  · obtain ⟨depth, t, hvalue, hdepth⟩ := called_value hof hv
    obtain ⟨fuel, es, hgiven⟩ := hgives v hv
    rw [logged_link] at hgiven
    refine ⟨fuel, _, answers v prompts.length, hgiven, ?_, answers_answered hvalue hdepth _⟩
    rw [Mem.table_eq Array.getElem?_push_size]
    refine Table.lists_list ?_ fun w hw => ?_
    · have hsize := hprompts.size
      rw [List.length_map] at hsize ⊢
      rw [length_answers]
      exact hsize
    · obtain ⟨s, -, rfl⟩ := List.mem_map.mp hw
      rfl

/-- Whether a called function asks the host with a sequence of two texts, and there is room for it. -/
def takesPair {W : Type} (u : Running W) (f : Option Func) (t : Nat) (m : Mem) : Bool :=
  match f, Mem.sequence (m.table t) with
  | some (.builtin (.host (.callback .batchLlmQuery))), [.str a, .str b] =>
    decide (bytesEq a (bytes "a") = true ∧ bytesEq b (bytes "b") = true ∧
      (m.table t).row.size + (m.table t).slots.size + 1 < 0x8000000000000000 ∧ 4 ≤ u.fuel ∧
      u.machine.base + u.machine.depth.native + 1 < Machine.nativeLimit ∧
      u.machine.depth.calls + 1 < Machine.callLimit)
  | _, _ => false

/-- Whether a run is about to ask with a sequence of two texts. -/
def asksPair {W : Type} (u : Running W) : Bool :=
  match u.step with
  | .call (.func id) [.table t] _ _ m => takesPair u m.funcs[id]? t m
  | _ => false

theorem enters_of_asksPair {W : Type} {u : Running W} (h : asksPair u = true) :
    4 ≤ u.fuel ∧ ∃ id site m y, u.machine.advance u.step = .step (Machine.enterBuiltin
        (.host (.callback .batchLlmQuery)) [.table id] site m) y ∧
      (m.table id).Lists (["a", "b"].map .text) := by
  unfold asksPair at h
  split at h
  · rename_i id t site k m hstep
    unfold takesPair at h
    split at h
    · rename_i a b hfunc hsequence
      obtain ⟨ha, hb, hsize, hfuel, hnative, hcalls⟩ := of_decide_eq_true h
      rw [bytesEq_iff] at ha hb
      subst ha hb
      refine ⟨hfuel, t, site, m, u.machine.within m site k, ?_, ?_⟩
      · rw [hstep]
        exact Machine.advance_call ⟨hnative, hcalls⟩ hfunc [.table t] site k
      · have hlists := Table.lists_sequence hsize
        rw [hsequence] at hlists
        exact hlists
    · cases h
  · cases h

/-- A program that asks with two prompts, and the reply to it. -/
def askingProgram : String := "x = batch_llm_query(\x7b'a', 'b'\x7d)"

/-- The first element answers as it is and the second by its written form. -/
def pairReply : String := "\x7b\"id\":\"bridge:1\",\"result\":[\"x\",[1]]\x7d"

/-- Where the reply is to be read. -/
def pairLink : Link Outbound := ⟨.ofBytes (bytes (pairReply ++ "\n")).toList, {}⟩

theorem putLine_open (line : String) : (Outbound.writer.putLine line {}).1 = .ok () := by
  have hput (text : String) (ws : List String) :
      ∃ ws', Outbound.writer.put text { writes := ws } = (.ok (), { writes := ws' }) := by
    unfold Writer.put
    split
    · exact ⟨_, rfl⟩
    · exact ⟨_, rfl⟩
  obtain ⟨ws, hline⟩ := hput line []
  obtain ⟨ws', hend⟩ := hput "\n" ws
  rw [Writer.putLine, hline]
  dsimp only
  rw [hend]
  rfl

/-- Two prompts of a program that is evaluated, and a reply with two elements. -/
theorem batch_answered_sample : ∃ (u : Running (Client × Link Outbound)) (id : Nat) (site : Site)
    (m : Mem) (y : Machine), 4 ≤ u.fuel ∧
    u.machine.advance u.step = .step (Machine.enterBuiltin
      (.host (.callback .batchLlmQuery)) [.table id] site m) y ∧
    (m.table id).Lists (["a", "b"].map .text) ∧ ∃ fuel m' strings l,
      Running.Leads (paired (outside Outbound.writer.ports (.still 0))) "" u
        ⟨fuel, u.sink, y, .leave (.give [.table m.tables.size]) m', (⟨"bridge", 1⟩, l)⟩ ∧
      (m'.table m.tables.size).Lists (strings.map .text) ∧
      Answered (.arr [.str "x", .arr [.int 1]]) 2 strings := by
  have h : ((Session.start "context").toOption.bind fun s₀ =>
      (BasicFn.compile (bytes askingProgram) Session.chunkSource (bytes "bt")).toOption.bind fun f =>
        (runAfter (paired (outside Outbound.writer.ports (.still 0))) ""
          (s₀.begun 400 (s₀.chunk f) (⟨"bridge", 0⟩, pairLink)) 2).map fun u =>
            (asksPair u, u.world.1.idPrefix, u.world.1.issued, u.world.2.inbound,
              u.world.2.outbound)) =
      some (true, "bridge", 0, pairLink.inbound, {}) := by
    decide +kernel
  obtain ⟨s₀, -, h⟩ := Option.bind_eq_some_iff.mp h
  obtain ⟨f, -, h⟩ := Option.bind_eq_some_iff.mp h
  obtain ⟨u, -, h⟩ := Option.map_eq_some_iff.mp h
  obtain ⟨fuel, sink, x, s, ⟨⟨idPrefix, issued⟩, ⟨inbound, outbound⟩⟩⟩ := u
  simp only [Prod.mk.injEq] at h
  obtain ⟨hasks, rfl, rfl, rfl, rfl⟩ := h
  obtain ⟨hfuel, id, site, m, y, henters, hprompts⟩ := enters_of_asksPair hasks
  obtain ⟨call, l, hrequest, -, hof, -, htold, hgives⟩ :=
    batch_answered Outbound.writer (.still 0) "" hfuel henters hprompts
  have hwritten : call.written = .ok () := by
    have hput := congrArg Prod.fst hof.written
    exact hput.symm.trans (putLine_open _)
  have hreply : Says pairReply call.request.id (.ok (.arr [.str "x", .arr [.int 1]])) := by
    rw [hrequest]
    exact ⟨[("id", .str "bridge:1"), ("result", .arr [.str "x", .arr [.int 1]])],
      rfl, rfl, rfl, rfl⟩
  have hreadable : pairLink.inbound.readable = [pairReply] := by decide +kernel
  have houtcome := htold pairReply [] _ hreadable hwritten hreply
  obtain ⟨fuel', m', strings, hleads, hlists, hanswered⟩ := hgives _ houtcome
  exact ⟨_, id, site, m, y, hfuel, henters, hprompts, fuel', m', strings, l, hleads, hlists, hanswered⟩

end Service

end LuaSession
