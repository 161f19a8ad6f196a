import LuaSession.Proofs.Service.Lines
import LuaSession.Proofs.Wire.Streams

/-!
# Talking with a host

The host on the other side of the streams: what it sends may depend on all lines it has heard. If
after each request that it hears its next line is the reply to that request, then every call of a run
gets the host's answer to just that call, however many calls there are and whatever they depend on.

* `Host.Replies`: what is asked of the host.
* `Host.Faithful`: who sent what in reply to what.
* `Host.Closes`: how a run ends.
* `serve_answers`: the calls, the rounds and the end of every run.
* `serve_unanswered`: why code that ends the process and lines ahead of a reply are left out.
-/

namespace LuaSession.Service

open LuaSession.Bridge LuaSession.Lua LuaSession.Stream LuaSession.Wire

/-- A host: the bytes that it sends when a line is waited for, by the lines that it has heard so far,
and its answer to a request, by the lines that it heard before. Only the last bytes it sends at all may
end in the middle of a line, so that what it sends can be cut by itself.

It keeps in step with the loop. Lines that it has sent early are seen as sent when they are waited for,
which fits as long as the loop is what waits for them. A host that sends a further line ahead of a reply
is not covered: the call would take that line for the reply. -/
structure Host where
  sends : (heard : List String) → List UInt8
  answer : (heard : List String) → Wire.Request → Except (Int × String) Json
  whole : ∀ heard line more, (sends heard).getLast? = some 0x0A ∨ sends heard = [] ∨
    sends (heard ++ line :: more) = []

namespace Host

/-- The lines that are not blank among those that are sent. -/
def lines (h : Host) (heard : List String) : List String :=
  (Inbound.ofBytes (h.sends heard)).lines

/-- The host sends its lines one at a time, and after a request with a text for its id the next one,
behind any number of blank lines, says its answer to that request. -/
structure Replies (h : Host) : Prop where
  single : ∀ heard, (h.lines heard).length ≤ 1
  reply : ∀ heard line id method params,
    decodeRequest line.toList = .ok ⟨.str id, method, params⟩ →
      ∃ l, h.lines (heard ++ [line]) = [l] ∧
        Says l (.str id) (h.answer heard ⟨.str id, method, params⟩)

/-- A world with a host that hears what is written and sends what is read. -/
structure Room where
  world : World
  heard : List String := []

/-- What the host sends is there to be read. -/
def feed (h : Host) (t : Room) : World :=
  { t.world with streams.transport.inbound.pieces :=
      t.world.streams.transport.inbound.pieces ++ (Inbound.ofBytes (h.sends t.heard)).pieces }

/-- The ports to a host. -/
def ports (h : Host) : Ports (StateM Room) where
  readLine := fun t =>
    let (r, w) := World.ports.readLine (h.feed t)
    (r, { t with world := w })
  writeLine := fun line t =>
    let (r, w) := World.ports.writeLine line t.world
    (r, ⟨w, t.heard ++ [line]⟩)
  log := fun e t =>
    let (r, w) := World.ports.log e t.world
    (r, { t with world := w })

/-- A process that is asked in a room. -/
def process (q : Surroundings (StateM World)) : Surroundings (StateM Room) where
  now t := ((q.now t.world).1, { t with world := (q.now t.world).2 })
  clock t := ((q.clock t.world).1, { t with world := (q.clock t.world).2 })
  stopwatch t := ((q.stopwatch t.world).1, { t with world := (q.stopwatch t.world).2 })
  variable_ name t := ((q.variable_ name t.world).1, { t with world := (q.variable_ name t.world).2 })
  spill channel content t :=
    ((q.spill channel content t.world).1, { t with world := (q.spill channel content t.world).2 })

/-! ### Faithful journals -/

/-- Every line of the journal that was taken is the one that the host sends after what it has heard by
then, and where none was found it sends none. -/
def Faithful (h : Host) : (heard : List String) → Journal → Prop
  | _, [] => True
  | heard, .took _ line :: j => h.lines heard = [line] ∧ h.Faithful heard j
  | heard, .missed _ :: j => h.lines heard = [] ∧ h.Faithful heard j
  | heard, .sent _ line :: j => h.Faithful (heard ++ [line]) j
  | heard, .returned _ :: j => h.Faithful heard j

theorem faithful_append (h : Host) (heard : List String) (j j' : Journal) :
    h.Faithful heard (j ++ j') ↔ h.Faithful heard j ∧ h.Faithful (heard ++ j.sent) j' := by
  induction j generalizing heard with
  | nil =>
    rw [show heard ++ Journal.sent [] = heard from List.append_nil heard]
    exact (iff_of_eq (true_and _)).symm
  | cons e j ih =>
    cases e with
    | took who line => exact (and_congr_right fun _ => ih heard).trans and_assoc.symm
    | missed who => exact (and_congr_right fun _ => ih heard).trans and_assoc.symm
    | sent who line =>
      refine (ih (heard ++ [line])).trans ?_
      rw [List.append_assoc]
      rfl
    | returned r => exact ih heard

/-- Nothing is left to be read but blank lines, and every line can be written. -/
structure Room.Idle (t : Room) : Prop where
  lines : t.world.lines = []
  failure : t.world.failure = none
  isOpen : t.world.Open

/-- From one room to another the lines of the journal were exchanged with the host. -/
structure Room.Moves (h : Host) (t t' : Room) (j : Journal) : Prop where
  heard : t'.heard = t.heard ++ j.sent
  faithful : h.Faithful t.heard j
  idle : t'.Idle

/-- Whatever leaves the streams and the host alone. -/
theorem Room.Moves.of_transport {h : Host} {t t' : Room} (ht : t.Idle) (hh : t'.heard = t.heard)
    (hw : t'.world.streams.transport = t.world.streams.transport) : t.Moves h t' [] where
  heard := hh.trans (List.append_nil _).symm
  faithful := trivial
  idle := by
    refine ⟨?_, ?_, ?_⟩
    · rw [World.lines, hw]
      exact ht.lines
    · rw [World.failure, hw]
      exact ht.failure
    · rw [World.Open, hw]
      exact ht.isOpen

/-- A talk with the host, followed by the lines of the journal. -/
def following (h : Host) : Following Room where
  good := Room.Idle
  moves := Room.Moves h
  refl ht := .of_transport ht rfl rfl
  trans {u v w j j'} hj hj' := by
    refine ⟨?_, (h.faithful_append _ _ _).2 ⟨hj.faithful, hj.heard ▸ hj'.faithful⟩, hj'.idle⟩
    rw [hj'.heard, hj.heard, Journal.sent_append, List.append_assoc]
  stays hj := hj.idle
  returned r ht := ⟨(List.append_nil _).symm, trivial, ht⟩

theorem readLine_eq (h : Host) (t : Room) :
    h.ports.readLine t = ((h.feed t).streams.transport.readLine.1,
      { t with world := { h.feed t with
        streams.transport := (h.feed t).streams.transport.readLine.2 } }) := rfl

theorem writeLine_eq (h : Host) (t : Room) (line : String) :
    h.ports.writeLine line t = ((t.world.streams.transport.writeLine line).1,
      ⟨{ t.world with streams.transport := (t.world.streams.transport.writeLine line).2 },
        t.heard ++ [line]⟩) := rfl

theorem log_eq (h : Host) (t : Room) (e : Log.Event) :
    h.ports.log e t = ((), { t with world := { t.world with
      streams.events := t.world.streams.events ++ [e] } }) := rfl

/-- When nothing else is left, what can be read is what the host sends. -/
theorem lines_feed (h : Host) {t : Room} (ht : t.Idle) :
    (h.feed t).streams.transport.inbound.lines = h.lines t.heard := by
  change ((_ ++ _ : List (List UInt8)).filterMap shownLine) = _
  rw [List.filterMap_append]
  have hidle : t.world.streams.transport.inbound.pieces.filterMap shownLine = [] := ht.lines
  rw [hidle]
  rfl

/-- There is always something to be read, or nothing any more. -/
theorem readLine_ne_error {h : Host} {t t' : Room} {e : TransportError} (ht : t.Idle) :
    h.ports.readLine t ≠ (.error e, t') := by
  intro hread
  rcases hr : (h.feed t).streams.transport.readLine with ⟨r, tr⟩
  rw [readLine_eq, hr] at hread
  cases hread
  exact (Transport.readLine_error hr).1 ht.failure

theorem following_ports {h : Host} (hh : h.Replies) : h.following.Ports h.ports where
  log {t} e ht := ⟨_, h.log_eq t e, Room.Moves.of_transport ht (by rfl) (by rfl)⟩
  write {t line} ht hl := by
    refine ⟨_, by rw [writeLine_eq, Transport.writeLine_open ht.isOpen hl], fun who => ?_⟩
    exact ⟨rfl, trivial, ht.lines, ht.failure, ht.isOpen⟩
  take {t t' line} ht hread who := by
    rcases hr : (h.feed t).streams.transport.readLine with ⟨r, tr⟩
    rw [readLine_eq, hr] at hread
    cases hread
    obtain ⟨hl, hf, ho⟩ := Transport.readLine_some hr
    rw [lines_feed h ht] at hl
    have hnil : tr.inbound.lines = [] := by
      have := hh.single t.heard
      rw [hl] at this
      exact List.length_eq_zero_iff.1 (Nat.le_zero.1 (Nat.le_of_succ_le_succ this))
    refine ⟨(List.append_nil _).symm, ⟨?_, trivial⟩, hnil, hf.trans ht.failure, ?_⟩
    · rw [hl, hnil]
    · rw [World.Open, ho]
      exact ht.isOpen
  miss {t t' r} ht hread hmiss who := by
    rcases r with e | _ | line
    · exact absurd hread (readLine_ne_error ht)
    · rcases hr : (h.feed t).streams.transport.readLine with ⟨r, tr⟩
      rw [readLine_eq, hr] at hread
      cases hread
      obtain ⟨hl, hf, hl', hf', ho⟩ := Transport.readLine_none hr
      rw [lines_feed h ht] at hl
      refine ⟨(List.append_nil _).symm, ⟨hl, trivial⟩, hl', hf', ?_⟩
      rw [World.Open, ho]
      exact ht.isOpen
    · exact absurd rfl (hmiss line)

theorem following_process {h : Host} {q : Surroundings (StateM World)} (hq : World.Spares q) :
    h.following.Process (process q) where
  now {t} ht := Room.Moves.of_transport ht rfl (congrArg _ (hq.now t.world))
  clock {t} ht := Room.Moves.of_transport ht rfl (congrArg _ (hq.clock t.world))
  stopwatch {t} ht := Room.Moves.of_transport ht rfl (congrArg _ (hq.stopwatch t.world))
  variable_ {t} name ht := Room.Moves.of_transport ht rfl (congrArg _ (hq.variable_ name t.world))
  spill {t} channel content ht :=
    Room.Moves.of_transport ht rfl (congrArg _ (hq.spill channel content t.world))

/-! ### Answers -/

/-- What a call comes to when the host answers it. -/
def told : Except (Int × String) Json → Except BridgeError Json :=
  Except.mapError fun e => .remote e.1 e.2

/-- Each call is answered by the host, who heard the requests before it. -/
def Answers (h : Host) : (heard : List String) → List Exchange → Prop
  | _, [] => True
  | heard, e :: calls =>
    e.outcome = told (h.answer heard e.request) ∧ h.Answers (heard ++ [e.request.encode]) calls

/-- Each round takes the line that the host sends after what it has heard, its calls are answered by
the host, and its response has the id of the line. -/
def Rounds (h : Host) : (heard : List String) → List Turn → Prop
  | _, [] => True
  | heard, t :: turns =>
    h.lines heard = [t.line] ∧ h.Answers heard t.calls ∧ t.response.id = idOf t.line.toList ∧
      h.Rounds (heard ++ t.sent) turns

/-- What comes after the rounds: the host sends nothing any more, or the run ends while a line is
answered, whose calls so far are answered by the host. -/
def Ends (h : Host) (heard : List String) : Rest → Prop
  | .nothing => True
  | .missed => h.lines heard = []
  | .cut line calls => h.lines heard = [line] ∧ h.Answers heard calls

/-- How a run ends and leaves a session: all that the host sends is answered; or the command that the
last line asks for evaluates code that ends the process or does not end; or as many lines are answered
as the run has steps. -/
inductive Closes (h : Host) (q : Surroundings (StateM World)) (fuel : Nat) (s : Session)
    (c : Course) : Except Stop Stats → Prop
  | answered : c.rest = .missed → Closes h q fuel s c (.ok c.stats)
  | halted {line : String} {calls : List Exchange} {command : Command} {e : Halt} :
      c.rest = .cut line calls → Asks line.toList command →
      Halts (paired (outside h.ports (process q))) fuel s e command →
      Closes h q fuel s c (.error (.halt e))
  | outOfLines : c.rest = .nothing → c.turns.length = fuel →
      Closes h q fuel s c (.error (.halt .outOfSteps))

/-- Reading from a host does not fail, so a run stops only for want of steps or while it answers. -/
theorem closes_of_stopped {h : Host} {q : Surroundings (StateM World)} {fuel : Nat} {s : Session}
    {c : Course} {e : Stop} (hc : c.Stopped h.following h.ports (process q) fuel fuel s e) :
    h.Closes q fuel s c (.error e) := by
  cases hc with
  | @halt line calls client u e hrest hhalt =>
    have hpaired : (dispatchLine (paired (outside h.ports (process q))) fuel s line
        (client, u)).1 = .error e := by
      rw [dispatchLine_paired]
      exact hhalt
    obtain ⟨command, hasks, hhalts⟩ := dispatchLine_halts hpaired
    exact .halted hrest hasks hhalts
  | input _ hu hread => exact absurd hread (readLine_ne_error hu)
  | lines hrest hlength => exact .outOfLines hrest hlength

end Host

/-! ### Requests that the host can read -/

/-- The policy by which the host is asked only in texts under fixed names. -/
def sending : Policy :=
  .asking fun r => match r with
    | .ask method params => ∃ f : Callback, f.MaySend method params
    | _ => True

theorem lasting_sending : sending.Lasting := by
  refine Policy.lasting_asking fun b r hb => ?_
  cases r with
  | ask method params =>
    cases b with
    | host f =>
      cases f with
      | callback f => exact ⟨f, hb⟩
      | _ => exact hb.elim
    | basic f => cases f <;> exact hb.elim
    | io f => cases f <;> exact hb.elim
    | math f => cases f <;> exact hb.elim
    | os f => cases f <;> exact hb.elim
    | _ => exact hb.elim
  | _ => trivial

/-- What is sent can be read back. -/
theorem maySend_exact {f : Callback} {method : String} {params : Json}
    (h : f.MaySend method params) : params.Exact ∧ params.depth ≤ 2 := by
  have htexts : ∀ ss : List String, Json.ExactItems (ss.map .str) ∧
      Json.depthItems (ss.map .str) = 0 := by
    intro ss
    induction ss with
    | nil => exact ⟨trivial, rfl⟩
    | cons s ss ih => exact ⟨⟨trivial, ih.1⟩, by rw [List.map_cons, Json.depthItems, ih.2]; rfl⟩
  have hone : ∀ (name : String) (v : Json), Json.ofFields [(name, v)] = .obj [(name, v)] :=
    fun _ _ => rfl
  cases f with
  | llmQuery =>
    obtain ⟨-, prompt, rfl⟩ := h
    rw [hone]
    exact ⟨⟨List.pairwise_singleton _ _, trivial, trivial⟩, Nat.le_succ 1⟩
  | rlmQuery =>
    obtain ⟨-, ⟨task, rfl⟩ | ⟨task, context, rfl⟩⟩ := h
    · rw [hone]
      exact ⟨⟨List.pairwise_singleton _ _, trivial, trivial⟩, Nat.le_succ 1⟩
    · have hlt : "context" < "task" := by decide
      have hfields : Json.ofFields [("task", .str task), ("context", .str context)] =
          .obj [("context", .str context), ("task", .str task)] := by
        simp only [Json.ofFields, List.foldl_cons, List.foldl_nil, Json.insertField, hlt, if_true]
      rw [hfields]
      exact ⟨⟨List.pairwise_pair.2 hlt, trivial, trivial, trivial⟩, Nat.le_succ 1⟩
  | batchLlmQuery =>
    obtain ⟨-, prompts, rfl⟩ := h
    obtain ⟨hexact, hdepth⟩ := htexts prompts
    rw [hone]
    refine ⟨⟨List.pairwise_singleton _ _, hexact, trivial⟩, ?_⟩
    rw [Json.depth, Json.depthFields, Json.depth, hdepth]
    exact Nat.le_refl 2

/-- The host reads the request of every call as that request. -/
theorem Exchange.Of.decode {c : Client} {e : Exchange} (h : e.Of sending c) :
    decodeRequest e.request.encode.toList =
      .ok ⟨.str (Client.nextId c), e.request.method, e.request.params⟩ := by
  obtain ⟨f, hf⟩ := h.allowed
  obtain ⟨hexact, hdepth⟩ := maySend_exact hf
  have hr : e.request = ⟨.str (Client.nextId c), e.request.method, e.request.params⟩ := by
    rw [← h.id]
  rw [← hr]
  refine decodeRequest_encode ⟨?_, hexact, ?_, Nat.lt_of_le_of_lt hdepth (by decide)⟩
  · rw [h.id]
    trivial
  · rw [h.id]
    exact Nat.zero_lt_succ 126

/-! ### Answers reach the calls -/

/-- A reply that says an outcome makes the call end in it. -/
theorem readReply_says {id line : String} {outcome : Except (Int × String) Json}
    (h : Says line (.str id) outcome) : readReply id line = Host.told outcome := by
  obtain ⟨r, hr, hid, hout⟩ := decodeResponse_says h
  unfold readReply
  rw [hr]
  dsimp only
  rw [hid, if_pos (show (Json.str id).text? = some id from rfl), ← hout]
  cases r.outcome <;> rfl

variable {h : Host}

theorem answer_of_exchange (hh : h.Replies) {c : Client} {e : Exchange} (he : e.Of sending c)
    {heard : List String} (hj : h.Faithful heard e.entries) :
    e.outcome = Host.told (h.answer heard e.request) := by
  obtain ⟨l, hl, hsays⟩ := hh.reply heard e.request.encode _ _ _ he.decode
  have hr : e.request = ⟨.str (Client.nextId c), e.request.method, e.request.params⟩ := by
    rw [← he.id]
  rw [← hr] at hsays
  have hread : h.Faithful (heard ++ [e.request.encode])
      [readEntry .call e.reply, .returned e.outcome] := hj
  rcases hreply : e.reply with _ | line
  · rw [hreply] at hread
    rw [hread.1] at hl
    cases hl
  · rw [hreply] at hread
    rw [hread.1] at hl
    cases hl
    rw [he.outcome l hreply, readReply_says hsays]

theorem answers_of_made (hh : h.Replies) {c c' : Client} {calls : List Exchange}
    (hm : Made sending c calls c') {heard : List String}
    (hj : h.Faithful heard (calls.flatMap Exchange.entries)) : h.Answers heard calls := by
  induction hm generalizing heard with
  | nil => trivial
  | @cons c c' e calls he _ ih =>
    rw [List.flatMap_cons] at hj
    obtain ⟨hfirst, hrest⟩ := (h.faithful_append _ _ _).1 hj
    refine ⟨answer_of_exchange hh he hfirst, ih ?_⟩
    have hsent : Journal.sent e.entries = [e.request.encode] := by
      cases hr : e.reply <;> simp [Exchange.entries, hr, readEntry, Journal.sent, Entry.sent?]
    rw [hsent] at hrest
    exact hrest

theorem rounds_of_course {turns : List Turn} {rest : Rest} (hh : h.Replies) {c c' : Client}
    (hm : Made sending c (turns.flatMap (·.calls) ++ rest.calls) c') {heard : List String}
    (hids : ∀ t ∈ turns, t.response.id = idOf t.line.toList)
    (hj : h.Faithful heard (turns.flatMap Turn.entries ++ rest.entries)) :
    h.Rounds heard turns ∧ h.Ends (heard ++ turns.flatMap Turn.sent) rest := by
  induction turns generalizing c heard with
  | nil =>
    rw [List.flatMap_nil, List.append_nil]
    refine ⟨trivial, ?_⟩
    cases rest with
    | nothing => trivial
    | missed => exact hj.1
    | cut line calls => exact ⟨hj.1, answers_of_made hh hm hj.2⟩
  | cons t turns ih =>
    obtain ⟨hid, hids⟩ := List.forall_mem_cons.1 hids
    rw [List.flatMap_cons, List.append_assoc] at hm hj
    obtain ⟨c'', hcalls, hm⟩ := hm.split
    obtain ⟨hturn, hj⟩ := (h.faithful_append _ _ _).1 hj
    rw [Journal.sent_turn] at hj
    obtain ⟨hline, hexchanges⟩ := hturn
    obtain ⟨hrounds, hends⟩ := ih hm hids hj
    refine ⟨⟨hline, ?_, hid, hrounds⟩, ?_⟩
    · exact answers_of_made hh hcalls ((h.faithful_append _ _ _).1 hexchanges).1
    · rw [List.flatMap_cons, ← List.append_assoc]
      exact hends

/-- Every run with a host that replies. In each round the loop takes the line that the host sends next,
each call ends in the host's answer to it, and one response with the id of the line is sent; the calls
are numbered through over all rounds. The run goes on until all lines that the host sends are answered,
unless code that is evaluated for one of them ends the process or does not end. -/
theorem serve_answers {idPrefix contextName : String} {x : Server}
    (hx : Server.start idPrefix contextName = .ok x) {q : Surroundings (StateM World)}
    (hq : World.Spares q) {h : Host} (hh : h.Replies) {t : Host.Room} (ht : t.Idle)
    (hheard : t.heard = []) (fuel : Nat) :
    ∃ r x' t' c, x.serveNoting h.ports (Host.process q) fuel [] t =
        (((r, x'), Course.entries c), t') ∧
      x.serve h.ports (Host.process q) fuel t = ((r, x'), t') ∧
      t'.heard = Journal.sent c.entries ∧
      h.Rounds [] c.turns ∧ h.Ends (c.turns.flatMap Turn.sent) c.rest ∧
      c.calls.map (·.request.id) = (List.range' 1 c.calls.length).map (fun n =>
        .str (idPrefix ++ ":" ++ String.ofList (Number.natChars n))) ∧
      h.Closes q fuel x'.session c r := by
  have hs : x.session.Obeys sending := Session.start_obeys (Server.start_parts hx).1 trivial
  obtain ⟨r, x', c, t', hnoted, hplain, ⟨hm, hmoves, hid⟩, hend, hstop⟩ :=
    serveNoting_course (Host.following_ports hh) (Host.following_process hq) lasting_sending fuel
      hs [] ht
  have hj := hmoves.faithful
  rw [hheard] at hj
  obtain ⟨hrounds, hends⟩ := rounds_of_course hh hm hid hj
  refine ⟨r, x', t', c, hnoted, hplain, ?_, hrounds, hends, ?_, ?_⟩
  · rw [hmoves.heard, hheard]
    rfl
  · rw [hm.ids, (Server.start_parts hx).2]
    rfl
  · cases r with
    | ok stats =>
      obtain ⟨hended, rfl⟩ := hend stats rfl
      exact .answered hended.rest
    | error e => exact Host.closes_of_stopped (hstop e rfl)

/-! ### Small hosts -/

/-- The line by which a host answers that says the same to all requests. -/
def okReply (id : String) : Response := ⟨.str id, .ok (.str "ok")⟩

/-- A host that sends one line, and says the same to whatever it is asked. -/
def Host.obliging (line : String) : Host where
  sends heard := match heard.getLast? with
    | none => Text.Utf8.encode (line.toList ++ ['\n'])
    | some line =>
      match decodeRequest line.toList with
      | .ok ⟨.str id, _, _⟩ => Text.Utf8.encode ((okReply id).chars ++ ['\n'])
      | _ => []
  answer _ _ := .ok (.str "ok")
  whole heard line more := by
    have hend : ∀ cs : List Char, (Text.Utf8.encode (cs ++ ['\n'])).getLast? = some 0x0A := by
      intro cs
      rw [show Text.Utf8.encode (cs ++ ['\n']) = Text.Utf8.encode cs ++ [0x0A] from
        List.flatMap_append]
      exact List.getLast?_concat
    split
    · exact .inl (hend _)
    · split
      · exact .inl (hend _)
      · exact .inr (.inl rfl)

theorem okReply_exact (id : String) : (okReply id).Exact where
  id := trivial
  idDepth := Nat.zero_lt_succ 126
  result := by
    rintro _ ⟨⟩
    trivial
  resultDepth := by
    rintro _ ⟨⟩
    exact Nat.zero_lt_succ 126
  error := nofun

theorem lines_okReply (id : String) :
    (Inbound.ofBytes (Text.Utf8.encode ((okReply id).chars ++ ['\n']))).lines =
      [(okReply id).encode] := by
  have h := lines_encode (Response.sendable (okReply_exact id))
  rw [Response.encode, String.toList_ofList] at h
  exact h

/-- It sends its line at first. -/
theorem Host.obliging_lines {line : String} (h : Sendable line.toList) :
    (obliging line).lines [] = [line] := by
  refine (lines_encode h).trans ?_
  rw [String.ofList_toList]

/-- It replies to every request. -/
theorem Host.obliging_replies {line : String} (h : Sendable line.toList) :
    (obliging line).Replies where
  single heard := by
    unfold Host.lines obliging
    dsimp only
    split
    · rw [lines_encode h]
      exact Nat.le_refl 1
    · split
      · rw [lines_okReply]
        exact Nat.le_refl 1
      · exact Nat.zero_le 1
  reply heard request id method params hrequest := by
    refine ⟨(okReply id).encode, ?_, Response.says_encode (okReply_exact id)⟩
    unfold Host.lines obliging
    dsimp only
    rw [List.getLast?_concat]
    dsimp only
    rw [hrequest]
    exact lines_okReply id

/-- A request whose code asks the host. -/
def askingLine : String :=
  "\x7b\"id\":1,\"method\":\"execute\",\"params\":\x7b\"code\":\"llm_query('hi')\"\x7d\x7d"

theorem sendable_askingLine : Sendable askingLine.toList := .of_all (by decide) (by decide)

/-- The host hears the request of one call and the response. -/
theorem serve_answers_sample : ∃ (x x' : Server) (t' : Host.Room) (c : Course),
    Server.start "bridge" "context" = .ok x ∧
    x.serve (Host.obliging askingLine).ports (Host.process World.surroundings) 400 { world := {} } =
      ((.ok ⟨1, 0⟩, x'), t') ∧
    (Host.obliging askingLine).Rounds [] c.turns ∧ c.turns.length = 1 ∧
    (Journal.sent c.entries).length = 2 ∧
    c.calls.map (·.request.id) = (List.range' 1 c.calls.length).map (fun n =>
      .str ("bridge" ++ ":" ++ String.ofList (Number.natChars n))) := by
  have h : (Server.start "bridge" "context").toOption.map (fun x =>
      let r := x.serve (Host.obliging askingLine).ports (Host.process World.surroundings) 400
        { world := {} }
      (r.1.1.toOption, r.2.heard.length)) = some (some ⟨1, 0⟩, 2) := by
    decide +kernel
  rcases hx : Server.start "bridge" "context" with e | x
  · rw [hx] at h
    cases h
  · rw [hx] at h
    obtain ⟨r, x', t', c, -, hrun, hheard, hrounds, -, hids, hcloses⟩ :=
      serve_answers hx World.spares_surroundings (Host.obliging_replies sendable_askingLine)
        (t := { world := {} }) ⟨rfl, rfl, rfl, rfl⟩ rfl 400
    simp only [Except.toOption, Option.map_some, hrun] at h
    cases hcloses with
    | answered =>
      obtain ⟨hstats, hlength⟩ := Prod.mk.inj (Option.some.inj h)
      replace hstats := Option.some.inj hstats
      rw [hheard] at hlength
      rw [hstats] at hrun
      exact ⟨x, x', t', c, rfl, hrun, hrounds, congrArg Stats.responses hstats, hlength, hids⟩
    | halted | outOfLines => cases h

/-- How a run was halted, if it was. -/
def haltOf : Except Stop Stats → Option Halt
  | .error (.halt e) => some e
  | _ => none

/-- What the calls of a journal took as their replies. -/
def Journal.replies (j : Journal) : List String :=
  j.filterMap fun
    | .took .call line => some line
    | _ => none

/-- The failures in which the calls of a journal ended, in words. -/
def Journal.failures (j : Journal) : List String :=
  j.filterMap fun
    | .returned (.error e) => some e.message
    | _ => none

/-- A further request. -/
def furtherLine : String := "\x7b\"id\":2,\"method\":\"destroy\"\x7d"

/-- What is sent by a host that does not wait: a request whose code asks it, a further request, and only
then the reply to the call. -/
def hastyInput : String :=
  askingLine ++ "\n" ++ furtherLine ++ "\n" ++ (okReply "bridge:1").encode ++ "\n"

/-- A request whose code ends the process gets no response, even from a host that replies to every call.
And where a further request stands ahead of the reply, the call takes it for the reply and fails; two
lines get responses, the further request not being one of them. -/
theorem serve_unanswered :
    (Host.obliging exitLine).Replies ∧ (Host.obliging exitLine).lines [] = [exitLine] ∧
    ((Server.start "bridge" "context").toOption.map fun x =>
      let r := x.serve (Host.obliging exitLine).ports (Host.process World.surroundings) 400
        { world := {} }
      (haltOf r.1.1, r.2.heard)) = some (some (.exit 3), []) ∧
    ((Server.start "bridge" "context").toOption.map fun x =>
      let r := x.serveNoting World.ports World.surroundings 400 [] (.ofText hastyInput)
      (r.1.1.1.toOption, Journal.replies r.1.2, Journal.failures r.1.2)) =
        some (some ⟨2, 1⟩, [furtherLine],
          ["malformed bridge reply: invalid response: missing result or error"]) := by
  have hexit : Sendable exitLine.toList := .of_all (by decide) (by decide)
  exact ⟨Host.obliging_replies hexit, Host.obliging_lines hexit, by decide +kernel,
    by decide +kernel⟩

end LuaSession.Service
