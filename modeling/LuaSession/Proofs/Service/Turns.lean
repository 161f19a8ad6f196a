import LuaSession.Proofs.Service.Journal
import LuaSession.Proofs.Session.Policy

/-!
# The turns of the server

What the journal of a run looks like, over any streams of which each line can be written: rounds one
after the other, each the line that the loop takes, the calls while it is answered and the response.

* `Made`: the calls that a client makes, one after the other.
* `answer_calls`: what the loop does with one line.
* `serveNoting_course`: the journal of every run, whatever evaluated code does.
-/

namespace LuaSession.Service

open LuaSession.Bridge LuaSession.Lua LuaSession.Stream LuaSession.Wire

/-! ### Streams that are followed -/

/-- A way to follow a world by what the journal notes: `moves` says by which entries one world is
reached from another, among those that are `good`. -/
structure Following (W : Type) where
  good : W → Prop
  moves : W → W → Journal → Prop
  refl : ∀ {w}, good w → moves w w []
  trans : ∀ {u v w j j'}, moves u v j → moves v w j' → moves u w (j ++ j')
  stays : ∀ {w w' j}, moves w w' j → good w'
  returned : ∀ {w} r, good w → moves w w [.returned r]

variable {W : Type}

/-- The lines that ports take and send are what moves the world, and every line can be sent. -/
structure Following.Ports (F : Following W) (ports : Stream.Ports (StateM W)) : Prop where
  log : ∀ {w} e, F.good w → ∃ w', ports.log e w = ((), w') ∧ F.moves w w' []
  write : ∀ {w line}, F.good w → line.isEmpty = false →
    ∃ w', ports.writeLine line w = (.ok (), w') ∧ ∀ who, F.moves w w' [.sent who line]
  take : ∀ {w w' line}, F.good w → ports.readLine w = (.ok (some line), w') →
    ∀ who, F.moves w w' [.took who line]
  miss : ∀ {w w' r}, F.good w → ports.readLine w = (r, w') → (∀ line, r ≠ .ok (some line)) →
    ∀ who, F.moves w w' [.missed who]

/-- What a process is asked is no move. -/
structure Following.Process (F : Following W) (p : Surroundings (StateM W)) : Prop where
  now : ∀ {w}, F.good w → F.moves w (p.now w).2 []
  clock : ∀ {w}, F.good w → F.moves w (p.clock w).2 []
  stopwatch : ∀ {w}, F.good w → F.moves w (p.stopwatch w).2 []
  variable_ : ∀ {w} name, F.good w → F.moves w (p.variable_ name w).2 []
  spill : ∀ {w} channel content, F.good w → F.moves w (p.spill channel content w).2 []

/-! ### Calls -/

/-- The client after one more call. -/
def Client.next (c : Client) : Client := { c with issued := c.issued + 1 }

/-- The id of the call that comes next. -/
def Client.nextId (c : Client) : String := c.callId (c.issued + 1)

/-- The request of the call that comes next. -/
def Client.request (c : Client) (method : String) (params : Json) : Wire.Request :=
  ⟨.str (nextId c), method, params⟩

/-- What a client makes of its next call: the request has the next id, a line that is taken is read
as the reply to that id, and without one the call fails. -/
structure Exchange.Of (p : Policy) (c : Client) (e : Exchange) : Prop where
  id : e.request.id = .str (Client.nextId c)
  allowed : p.allows (.ask e.request.method e.request.params)
  outcome : ∀ line, e.reply = some line → e.outcome = readReply (Client.nextId c) line
  missing : e.reply = none →
    e.outcome = .error (.closed (Client.nextId c)) ∨ ∃ d, e.outcome = .error (.io d)

/-- The calls that a client makes one after the other, and what it is then. -/
inductive Made (p : Policy) : Client → List Exchange → Client → Prop
  | nil (c : Client) : Made p c [] c
  | cons {c c' : Client} {e : Exchange} {calls : List Exchange} :
      e.Of p c → Made p (Client.next c) calls c' → Made p c (e :: calls) c'

namespace Made

variable {p : Policy} {c c' c'' : Client} {calls calls' : List Exchange}

theorem append (h : Made p c calls c') (h' : Made p c' calls' c'') :
    Made p c (calls ++ calls') c'' := by
  induction h with
  | nil => exact h'
  | cons he _ ih => exact .cons he (ih h')

theorem split (h : Made p c (calls ++ calls') c'') :
    ∃ c', Made p c calls c' ∧ Made p c' calls' c'' := by
  induction calls generalizing c with
  | nil => exact ⟨c, .nil c, h⟩
  | cons e calls ih =>
    cases h with
    | cons he h =>
      obtain ⟨c', hm, hm'⟩ := ih h
      exact ⟨c', .cons he hm, hm'⟩

/-- The ids are the prefix with the numbers of the calls in order. -/
theorem ids (h : Made p c calls c') :
    calls.map (·.request.id) =
      (List.range' (c.issued + 1) calls.length).map fun n => .str (c.callId n) := by
  induction h with
  | nil => rfl
  | @cons c c' e calls he _ ih =>
    rw [List.map_cons, he.id, ih, List.length_cons, List.range'_succ, List.map_cons]
    rfl

end Made

/-! ### Nothing is sent that is empty -/

theorem isEmpty_ofList {cs : List Char} (h : cs ≠ []) : (String.ofList cs).isEmpty = false := by
  rw [← Bool.not_eq_true, String.isEmpty_iff]
  intro hs
  exact h (by rw [← String.toList_ofList (l := cs), hs]; rfl)

theorem request_isEmpty (r : Wire.Request) : r.encode.isEmpty = false :=
  isEmpty_ofList (by simp [Wire.Request.chars])

theorem response_isEmpty (r : Response) : r.encode.isEmpty = false :=
  isEmpty_ofList (by simp [Response.chars])

/-- Calls over ports that correspond. -/
theorem call_holds {m : Type → Type} [Monad m] {R : Correspondence m m} {ports : Stream.Ports m}
    (hlog : ∀ e, R.holds (fun _ => True) (ports.log e) (ports.log e))
    (hwrite : ∀ line, line.isEmpty = false →
      R.holds (fun _ => True) (ports.writeLine line) (ports.writeLine line))
    (hread : R.holds (fun _ => True) ports.readLine ports.readLine) (c : Client) (method : String)
    (params : Json) :
    R.holds (fun _ => True) (c.call ports method params) (c.call ports method params) := by
  unfold Bridge.Client.call
  refine R.bind_any (hlog _) fun _ =>
    R.bind_any (hwrite _ (request_isEmpty _)) fun written => ?_
  split
  · exact R.pure trivial
  · refine R.bind_any hread fun r => ?_
    split
    · exact R.pure trivial
    · exact R.pure trivial
    · refine R.bind_any ?_ fun _ => R.pure trivial
      unfold Bridge.Client.logReply
      split
      · exact hlog _
      · exact R.pure trivial
      · exact hlog _

/-! ### A call over the streams -/

variable {F : Following W} {ports : Stream.Ports (StateM W)} {p : Policy}

theorem noting_log {e : Log.Event} {w w' : W} (h : ports.log e w = ((), w')) (who : Party)
    (j : Journal) : (noting who ports).log e j w = (((), j), w') := by
  simp only [noting, bind, StateT.bind, pure, pure_stateT, h]

theorem noting_writeLine {line : String} {w w' : W} (h : ports.writeLine line w = (.ok (), w'))
    (who : Party) (j : Journal) :
    (noting who ports).writeLine line j w = ((.ok (), j ++ [.sent who line]), w') := by
  simp only [noting, bind, StateT.bind, pure, pure_stateT, h]

theorem noting_readLine {line : String} {w w' : W} (h : ports.readLine w = (.ok (some line), w'))
    (who : Party) (j : Journal) :
    (noting who ports).readLine j w = ((.ok (some line), j ++ [.took who line]), w') := by
  simp only [noting, bind, StateT.bind, pure, pure_stateT, h]

theorem noting_readLine_miss {r : Except TransportError (Option String)} {w w' : W}
    (h : ports.readLine w = (r, w')) (hr : ∀ line, r ≠ .ok (some line)) (who : Party)
    (j : Journal) : (noting who ports).readLine j w = ((r, j ++ [.missed who]), w') := by
  rcases r with _ | _ | line
  · simp only [noting, bind, StateT.bind, pure, pure_stateT, h]
  · simp only [noting, bind, StateT.bind, pure, pure_stateT, h]
  · exact absurd rfl (hr line)

/-- What is noted of a reply is no move, with the journal or without it. -/
theorem logReply_stays (h : F.Ports ports) (id : String) (reply : Except BridgeError Json)
    (j : Journal) {w : W} (hw : F.good w) :
    ∃ w', Bridge.Client.logReply (noting .call ports) id reply j w = (((), j), w') ∧
      Bridge.Client.logReply ports id reply w = ((), w') ∧ F.moves w w' [] := by
  unfold Bridge.Client.logReply
  split
  · obtain ⟨w', hlog, hw'⟩ := h.log _ hw
    exact ⟨w', noting_log hlog _ _, hlog, hw'⟩
  · exact ⟨w, rfl, rfl, F.refl hw⟩
  · obtain ⟨w', hlog, hw'⟩ := h.log _ hw
    exact ⟨w', noting_log hlog _ _, hlog, hw'⟩

/-- A call is one exchange, with the journal or without it. -/
theorem call_exchange (h : F.Ports ports) (c : Client) {method : String} {params : Json}
    (hr : p.allows (.ask method params)) (j : Journal) {w : W} (hw : F.good w) :
    ∃ (e : Exchange) (w' : W), (Bridge.Client.call (noting .call ports) c method params) j w =
        (((e.outcome, Client.next c),
          j ++ [.sent .call e.request.encode, readEntry .call e.reply]), w') ∧
      c.call ports method params w = ((e.outcome, Client.next c), w') ∧
      e.Of p c ∧ F.moves w w' e.entries := by
  obtain ⟨w₁, hlog, hw₁⟩ := h.log ⟨.debug, Bridge.Client.target,
    s!"bridge request {Client.nextId c} {method}"⟩ hw
  obtain ⟨w₂, hwrite, hsent⟩ :=
    h.write (F.stays hw₁) (request_isEmpty (Client.request c method params))
  replace hsent := F.trans hw₁ (hsent .call)
  rw [Client.nextId] at hlog
  rw [Client.request, Client.nextId] at hwrite
  have hlog' := noting_log hlog .call j
  have hwrite' := noting_writeLine hwrite .call j
  rcases hread : ports.readLine w₂ with ⟨e | _ | line, w₃⟩
  · have hread' := fun j => noting_readLine_miss hread (by simp) .call j
    have hmiss := F.trans hsent (h.miss (F.stays hsent) hread (by simp) .call)
    refine ⟨⟨Client.request c method params, none, .error (.io e.detail)⟩, w₃, ?_, ?_,
      ⟨rfl, hr, by rintro _ ⟨⟩, fun _ => .inr ⟨_, rfl⟩⟩, F.trans hmiss (F.returned _ (F.stays hmiss))⟩
    · simp only [Bridge.Client.call, bind, StateT.bind, pure, pure_stateT, hlog', hwrite', hread']
      rw [List.append_assoc]
      rfl
    · simp only [Bridge.Client.call, bind, StateT.bind, pure, pure_stateT, hlog, hwrite, hread]
      rfl
  · have hread' := fun j => noting_readLine_miss hread (by simp) .call j
    have hmiss := F.trans hsent (h.miss (F.stays hsent) hread (by simp) .call)
    refine ⟨⟨Client.request c method params, none, .error (.closed (Client.nextId c))⟩, w₃, ?_, ?_,
      ⟨rfl, hr, by rintro _ ⟨⟩, fun _ => .inl rfl⟩, F.trans hmiss (F.returned _ (F.stays hmiss))⟩
    · simp only [Bridge.Client.call, bind, StateT.bind, pure, pure_stateT, hlog', hwrite', hread']
      rw [List.append_assoc]
      rfl
    · simp only [Bridge.Client.call, bind, StateT.bind, pure, pure_stateT, hlog, hwrite, hread]
      rfl
  · have hread' := fun j => noting_readLine hread .call j
    have htook := F.trans hsent (h.take (F.stays hsent) hread .call)
    obtain ⟨w₄, hnoted, hplain, hw₄⟩ := logReply_stays h (c.callId (c.issued + 1))
      (readReply (c.callId (c.issued + 1)) line) (j ++ [.sent .call
        (Client.request c method params).encode] ++ [.took .call line]) (F.stays htook)
    rw [Client.request, Client.nextId] at hnoted
    replace htook := F.trans htook hw₄
    refine ⟨⟨Client.request c method params, some line, readReply (Client.nextId c) line⟩, w₄,
      ?_, ?_, ⟨rfl, hr, ?_, by rintro ⟨⟩⟩, F.trans htook (F.returned _ (F.stays htook))⟩
    · simp only [Bridge.Client.call, bind, StateT.bind, pure, pure_stateT, hlog', hwrite', hread',
        hnoted]
      rw [List.append_assoc]
      rfl
    · simp only [Bridge.Client.call, bind, StateT.bind, pure, pure_stateT, hlog, hwrite, hread,
        hplain]
      rfl
    · rintro _ ⟨⟩
      rfl

/-! ### Calls while a line is answered -/

/-- From one state to another some calls were made and nothing else was taken or sent. -/
def Following.Calls (F : Following W) (p : Policy) (s t : Client × Journal × W) : Prop :=
  ∃ calls, Made p s.1 calls t.1 ∧ t.2.1 = s.2.1 ++ calls.flatMap Exchange.entries ∧
    F.moves s.2.2 t.2.2 (calls.flatMap Exchange.entries)

/-- Runs with the journal and without it, in which only calls reach the streams. -/
def Following.calling (F : Following W) (p : Policy) :
    Correspondence (StateT Client (StateT Journal (StateM W))) (StateT Client (StateM W)) :=
  .noted (fun s => F.good s.2.2) (F.Calls p)
    (fun s hs => ⟨[], .nil _, (List.append_nil _).symm, F.refl hs⟩)
    (fun s t u hst htu => by
      obtain ⟨calls, hm, hj, hw⟩ := hst
      obtain ⟨calls', hm', hj', hw'⟩ := htu
      refine ⟨calls ++ calls', hm.append hm', ?_, ?_⟩
      · rw [hj', hj, List.append_assoc, List.flatMap_append]
      · rw [List.flatMap_append]
        exact F.trans hw hw')
    (fun s t hst => by
      obtain ⟨calls, _, _, hw⟩ := hst
      exact F.stays hw)

/-- What leaves the streams alone. -/
theorem calling_aside {α : Type} {x : StateM W α} (hx : ∀ w, F.good w → F.moves w (x w).2 []) :
    (F.calling p).holds (fun _ => True)
      (fun c j w => (((((x w).1, c), j), (x w).2) : ((α × Client) × Journal) × W))
      (fun c w => ((((x w).1, c), (x w).2) : (α × Client) × W)) :=
  fun c j w hw => ⟨(x w).1, c, j, (x w).2, rfl, rfl, trivial, [], .nil c,
    (List.append_nil j).symm, hx w hw⟩

/-- The outside with the journal corresponds to the outside without it. -/
theorem notingOutside_corresponds (h : F.Ports ports) {q : Surroundings (StateM W)}
    (hq : F.Process q) :
    (notingOutside ports q).Corresponds (F.calling p) p (outside ports q) where
  now := calling_aside fun _ => hq.now
  clock := calling_aside fun _ => hq.clock
  stopwatch := calling_aside fun _ => hq.stopwatch
  variable_ name := calling_aside fun _ => hq.variable_ name
  log e := by
    refine calling_aside (x := ports.log e) fun w hw => ?_
    obtain ⟨w', hlog, hw'⟩ := h.log e hw
    rw [hlog]
    exact hw'
  spill channel content _ := calling_aside fun _ => hq.spill channel content
  ask method params hr c j w hw := by
    obtain ⟨e, w', hnoted, hplain, he, hm⟩ := call_exchange h c hr j hw
    refine ⟨e.outcome, Client.next c, j ++ e.entries, w', ?_, hplain, trivial, [e],
      .cons he (.nil _), ?_, ?_⟩
    · change (match (Bridge.Client.call (noting .call ports) c method params) j w with
        | (((r, c), j), w) => ((((r, c), j ++ [Entry.returned r]), w) : ((_ × Client) × Journal) × W)) = _
      rw [hnoted]
      dsimp only
      rw [List.append_assoc]
      rfl
    · rw [List.flatMap_singleton]
    · rw [List.flatMap_singleton]
      exact hm

/-! ### Rounds -/

/-- What the loop does with a line: it makes calls, and then sends a response with the id of the
line, unless what is evaluated for the line halts. -/
theorem answer_calls (h : F.Ports ports) {q : Surroundings (StateM W)} (hq : F.Process q)
    (hp : p.Lasting) (fuel : Nat) {x : Server} (hx : x.session.Obeys p) (line : String)
    (j : Journal) {w : W} (hw : F.good w) :
    ∃ r x' calls sent w', x.answer (notingOutside ports q) (noting .loop ports) fuel line j w =
        (((r, x'), j ++ calls.flatMap Exchange.entries ++ sent), w') ∧
      x.answer (outside ports q) ports fuel line w = ((r, x'), w') ∧
      Made p x.client calls x'.client ∧ F.moves w w' (calls.flatMap Exchange.entries ++ sent) ∧
      ((∃ e, r = .error (.halt e) ∧ sent = [] ∧ x'.session = x.session ∧
          (dispatchLine (outside ports q) fuel x.session line x.client w).1.1 = .error e) ∨
        ∃ response : Response, r = .ok response.isError ∧ response.id = idOf line.toList ∧
          sent = [.sent .loop response.encode] ∧ x'.session.Obeys p) := by
  obtain ⟨a, c', j', w', hnoted, hplain, ha, calls, hm, hj, hw'⟩ :=
    dispatchLine_holds hp (notingOutside_corresponds h hq) fuel hx line x.client j w hw
  dsimp only at hm hj hw'
  subst hj
  rcases a with e | ⟨response, session⟩
  · refine ⟨.error (.halt e), { x with client := c' }, calls, [], w', ?_, ?_, hm, ?_,
      .inl ⟨e, rfl, rfl, rfl, congrArg (fun r => r.1.1) hplain⟩⟩
    · simp only [Server.answer, StateT.run, bind, StateT.bind, pure, pure_stateT, hnoted,
        List.append_nil]
    · simp only [Server.answer, StateT.run, bind, StateT.bind, pure, pure_stateT, hplain]
    · rw [List.append_nil]
      exact hw'
  · obtain ⟨w'', hwrite, hsent⟩ := h.write (F.stays hw') (response_isEmpty response)
    refine ⟨.ok response.isError, ⟨session, c'⟩, calls, [.sent .loop response.encode], w'', ?_, ?_,
      hm, F.trans hw' (hsent .loop), .inr ⟨response, rfl, ha.1, rfl, ha.2⟩⟩
    · simp only [Server.answer, StateT.run, bind, StateT.bind, pure, pure_stateT, hnoted,
        noting_writeLine hwrite]
    · simp only [Server.answer, StateT.run, bind, StateT.bind, pure, pure_stateT, hplain, hwrite]

/-! ### Runs -/

/-- A whole run: its rounds and what came after them. -/
structure Course where
  turns : List Turn
  rest : Rest

namespace Course

/-- What the journal notes of a run. -/
def entries (c : Course) : Journal :=
  c.turns.flatMap Turn.entries ++ c.rest.entries

/-- The calls of a run. -/
def calls (c : Course) : List Exchange :=
  c.turns.flatMap (·.calls) ++ c.rest.calls

/-- The counts of a run. -/
def stats (c : Course) : Stats where
  responses := c.turns.length
  errors := c.turns.countP (·.response.isError)

/-- The run goes from one client and one world to others, and each response has the id of its line. -/
structure Of (F : Following W) (p : Policy) (c : Course) (client client' : Client) (w w' : W) :
    Prop where
  made : Made p client c.calls client'
  moves : F.moves w w' c.entries
  ids : ∀ t ∈ c.turns, t.response.id = idOf t.line.toList

/-- The run came to the end of the input: after its rounds nothing was left to be read. -/
structure Ended (F : Following W) (ports : Stream.Ports (StateM W)) (c : Course) (w : W) : Prop where
  rest : c.rest = .missed
  last : ∃ u v, F.moves w u (c.turns.flatMap Turn.entries) ∧ ports.readLine u = (.ok none, v)

/-- The run ended before the end of the input: what was evaluated for the line last taken halted, the
stream failed, or as many lines were answered as there may be. -/
inductive Stopped (F : Following W) (ports : Stream.Ports (StateM W)) (q : Surroundings (StateM W))
    (fuel lines : Nat) (s : Session) (c : Course) : Stop → Prop
  | halt {line : String} {calls : List Exchange} {client : Client} {u : W} {e : Halt} :
      c.rest = .cut line calls →
      (dispatchLine (outside ports q) fuel s line client u).1.1 = .error e →
      Stopped F ports q fuel lines s c (.halt e)
  | input {u v : W} {e : TransportError} : c.rest = .missed → F.good u →
      ports.readLine u = (.error e, v) → Stopped F ports q fuel lines s c (.transport e)
  | lines : c.rest = .nothing → c.turns.length = lines →
      Stopped F ports q fuel lines s c (.halt .outOfSteps)

variable {c : Course} {client client' client'' : Client} {u w w' : W}

/-- No round at all. -/
theorem Of.rest {r : Rest} (hm : Made p client r.calls client') (hw : F.moves w w' r.entries) :
    Of F p ⟨[], r⟩ client client' w w' :=
  ⟨hm, hw, List.forall_mem_nil _⟩

/-- A round in front. -/
theorem Of.cons {t : Turn} (ht : Made p client t.calls client') (hw : F.moves u w t.entries)
    (hid : t.response.id = idOf t.line.toList) (hc : c.Of F p client' client'' w w') :
    Of F p ⟨t :: c.turns, c.rest⟩ client client'' u w' := by
  obtain ⟨hm, hmoves, hids⟩ := hc
  refine ⟨?_, ?_, List.forall_mem_cons.2 ⟨hid, hids⟩⟩
  · rw [calls, List.flatMap_cons, List.append_assoc]
    exact ht.append hm
  · rw [entries, List.flatMap_cons, List.append_assoc]
    exact F.trans hw hmoves

theorem Ended.cons {t : Turn} (hw : F.moves u w t.entries) (hc : c.Ended F ports w) :
    Ended F ports ⟨t :: c.turns, c.rest⟩ u := by
  obtain ⟨hrest, u', v, hu, hlast⟩ := hc
  refine ⟨hrest, u', v, ?_, hlast⟩
  rw [List.flatMap_cons]
  exact F.trans hw hu

theorem Stopped.cons {q : Surroundings (StateM W)} {fuel lines : Nat} {s : Session} {e : Stop}
    (t : Turn) (hc : c.Stopped F ports q fuel lines s e) :
    Stopped F ports q fuel (lines + 1) s ⟨t :: c.turns, c.rest⟩ e := by
  cases hc with
  | halt hrest hhalt => exact .halt hrest hhalt
  | input hrest hu hread => exact .input hrest hu hread
  | lines hrest hlength => exact .lines hrest (congrArg (· + 1) hlength)

end Course

/-- A round is counted, and then the rounds after it. -/
theorem Stats.count_course (s : Stats) (t : Turn) (c : Course) :
    Stats.mk ((s.count t.response.isError).responses + c.stats.responses)
        ((s.count t.response.isError).errors + c.stats.errors) =
      ⟨s.responses + (Course.stats ⟨t :: c.turns, c.rest⟩).responses,
        s.errors + (Course.stats ⟨t :: c.turns, c.rest⟩).errors⟩ := by
  cases hb : t.response.isError with
  | false =>
    simp [Course.stats, Stats.count, hb]
    omega
  | true =>
    simp [Course.stats, Stats.count, hb]
    omega

/-- The run of the loop from any point on. The induction is on the number of lines. -/
theorem serveFrom_course (h : F.Ports ports) {q : Surroundings (StateM W)} (hq : F.Process q)
    (hp : p.Lasting) (fuel lines : Nat) (stats : Stats) {x : Server} (hx : x.session.Obeys p)
    (j : Journal) {w : W} (hw : F.good w) :
    ∃ r x' c w', x.serveFrom (notingOutside ports q) (noting .loop ports) fuel lines stats j w =
        (((r, x'), j ++ Course.entries c), w') ∧
      x.serveFrom (outside ports q) ports fuel lines stats w = ((r, x'), w') ∧
      c.Of F p x.client x'.client w w' ∧
      (∀ s, r = .ok s → c.Ended F ports w ∧
        s = ⟨stats.responses + c.stats.responses, stats.errors + c.stats.errors⟩) ∧
      ∀ e, r = .error e → c.Stopped F ports q fuel lines x'.session e := by
  induction lines generalizing stats x j w with
  | zero =>
    refine ⟨.error (.halt .outOfSteps), x, ⟨[], .nothing⟩, w, ?_, rfl, .rest (.nil _) (F.refl hw),
      nofun, ?_⟩
    · exact congrArg (fun j => (((_, x), j), w)) (List.append_nil j).symm
    · rintro _ ⟨⟩
      exact .lines rfl rfl
  | succ lines ih =>
    rcases hread : ports.readLine w with ⟨e | _ | line, w₁⟩
    · have hread' := noting_readLine_miss hread (by simp) .loop j
      have hw₁ := h.miss hw hread (by simp) .loop
      obtain ⟨w₂, hlog, hw₂⟩ := h.log ⟨.error, serverTarget, "inbound stream failed"⟩ (F.stays hw₁)
      refine ⟨.error (.transport e), x, ⟨[], .missed⟩, w₂, ?_, ?_,
        .rest (.nil _) (F.trans hw₁ hw₂), nofun, ?_⟩
      · simp only [Server.serveFrom, bind, StateT.bind, pure, pure_stateT, hread',
          noting_log hlog .loop]
        rfl
      · simp only [Server.serveFrom, bind, StateT.bind, pure, pure_stateT, hread, hlog]
      · rintro _ ⟨⟩
        exact .input rfl hw hread
    · have hread' := noting_readLine_miss hread (by simp) .loop j
      have hw₁ := h.miss hw hread (by simp) .loop
      refine ⟨.ok stats, x, ⟨[], .missed⟩, w₁, ?_, ?_, .rest (.nil _) hw₁, ?_, nofun⟩
      · simp only [Server.serveFrom, bind, StateT.bind, pure, pure_stateT, hread']
        rfl
      · simp only [Server.serveFrom, bind, StateT.bind, pure, pure_stateT, hread]
      · rintro _ ⟨⟩
        exact ⟨⟨rfl, w, w₁, F.refl hw, hread⟩, rfl⟩
    · have hread' := noting_readLine hread .loop j
      have hw₁ := h.take hw hread .loop
      obtain ⟨r, x', calls, sent, w₂, hnoted, hplain, hm, hw₂, hr⟩ :=
        answer_calls h hq hp fuel hx line (j ++ [.took .loop line]) (F.stays hw₁)
      have hround := F.trans hw₁ hw₂
      obtain ⟨e, rfl, rfl, hsession, hhalt⟩ | ⟨response, rfl, hid, rfl, hx'⟩ := hr
      · rw [List.append_nil] at hround
        refine ⟨.error (.halt e), x', ⟨[], .cut line calls⟩, w₂, ?_, ?_, .rest hm hround, nofun, ?_⟩
        · simp only [Server.serveFrom, bind, StateT.bind, pure, pure_stateT, hread', hnoted]
          simp [Course.entries, Rest.entries]
        · simp only [Server.serveFrom, bind, StateT.bind, pure, pure_stateT, hread, hplain]
        · rintro _ ⟨⟩
          rw [hsession]
          exact .halt rfl hhalt
      · obtain ⟨r, x'', c, w₃, hnoted', hplain', hc, hend, hstop⟩ :=
          ih (stats.count response.isError) hx' (j ++ [.took .loop line] ++
            calls.flatMap Exchange.entries ++ [.sent .loop response.encode]) (F.stays hw₂)
        refine ⟨r, x'', ⟨⟨line, calls, response⟩ :: c.turns, c.rest⟩, w₃, ?_, ?_,
          .cons hm hround hid hc, ?_, fun e he => (hstop e he).cons _⟩
        · simp only [Server.serveFrom, bind, StateT.bind, hread', hnoted, hnoted']
          simp [Course.entries, Turn.entries]
        · simp only [Server.serveFrom, bind, StateT.bind, hread, hplain, hplain']
        · intro s hs
          obtain ⟨hended, rfl⟩ := hend s hs
          exact ⟨hended.cons hround, stats.count_course ⟨line, calls, response⟩ c⟩

/-- A whole run. -/
theorem serveNoting_course (h : F.Ports ports) {q : Surroundings (StateM W)} (hq : F.Process q)
    (hp : p.Lasting) (fuel : Nat) {x : Server} (hx : x.session.Obeys p) (j : Journal) {w : W}
    (hw : F.good w) :
    ∃ r x' c w', x.serveNoting ports q fuel j w = (((r, x'), j ++ Course.entries c), w') ∧
      x.serve ports q fuel w = ((r, x'), w') ∧ c.Of F p x.client x'.client w w' ∧
      (∀ s, r = .ok s → c.Ended F ports w ∧ s = c.stats) ∧
      ∀ e, r = .error e → c.Stopped F ports q fuel fuel x'.session e := by
  obtain ⟨w₁, hlog, hw₁⟩ := h.log ⟨.info, serverTarget, "sandbox server started"⟩ hw
  obtain ⟨r, x', c, w₂, hnoted, hplain, ⟨hm, hw₂, hid⟩, hend, hstop⟩ :=
    serveFrom_course h hq hp fuel fuel {} hx j (F.stays hw₁)
  have hlog' := noting_log hlog .loop j
  have hrun := F.trans hw₁ hw₂
  rw [List.nil_append] at hrun
  rcases r with e | s
  · refine ⟨.error e, x', c, w₂, ?_, ?_, ⟨hm, hrun, hid⟩, nofun, hstop⟩
    · simp only [Server.serveNoting, Server.serveWith, bind, StateT.bind, pure, pure_stateT,
        hlog', hnoted]
    · simp only [Server.serve, Server.serveWith, bind, StateT.bind, pure, pure_stateT, hlog, hplain]
  · obtain ⟨⟨hrest, u, v, hu, hlast⟩, hs⟩ := hend s rfl
    obtain ⟨w₃, hclosed, hw₃⟩ :=
      h.log ⟨.info, serverTarget, "inbound stream closed"⟩ (F.stays hw₂)
    refine ⟨.ok s, x', c, w₃, ?_, ?_, ⟨hm, ?_, hid⟩, ?_, nofun⟩
    · simp only [Server.serveNoting, Server.serveWith, bind, StateT.bind, pure, pure_stateT,
        hlog', hnoted, noting_log hclosed .loop]
    · simp only [Server.serve, Server.serveWith, bind, StateT.bind, pure, pure_stateT, hlog,
        hplain, hclosed]
    · rw [← List.append_nil c.entries]
      exact F.trans hrun hw₃
    · rintro _ ⟨⟩
      replace hu := F.trans hw₁ hu
      rw [List.nil_append] at hu
      refine ⟨⟨hrest, u, v, hu, hlast⟩, ?_⟩
      rw [hs, Nat.zero_add, Nat.zero_add]

end LuaSession.Service
