import LuaSession.Proofs.Service.Turns
import LuaSession.Proofs.Stream.Lines
import LuaSession.Service.World

/-!
# Every line is accounted for

The streams of a `World` before and after a run. The lines that are not blank are taken one after the
other, each by the loop or by a call, and what is sent stands in the order of the rounds.

* `World.following`: what the journal says of the streams.
* `serve_accounts`: a run that came to the end of its input.
-/

namespace LuaSession.Service

open LuaSession.Bridge LuaSession.Lua LuaSession.Stream LuaSession.Wire

namespace World

/-- The lines that are left to be read. -/
def lines (w : World) : List String :=
  w.streams.transport.inbound.lines

/-- The failure at the end of what is read. -/
def failure (w : World) : Option String :=
  w.streams.transport.inbound.failure

/-- What was written to the stream of the protocol. -/
def writes (w : World) : List String :=
  w.streams.transport.outbound.writes

/-- No write to the stream of the protocol fails. -/
def Open (w : World) : Prop :=
  w.streams.transport.outbound.Open

/-- From one world to another the lines of the journal were taken and sent. A stream that fails at
its end may lose its last line. -/
structure Moves (w w' : World) (j : Journal) : Prop where
  failure : w'.failure = w.failure
  lines : w.failure = none → w.lines = j.taken ++ w'.lines
  writes : w'.writes = w.writes ++ j.sent.flatMap fun line => [line, "\n"]
  isOpen : w'.Open

variable {w w' : World}

/-- Whatever leaves alone what is written takes lines and sends nothing. -/
theorem Moves.of_outbound {j : Journal} (hw : w.Open) (hf : w'.failure = w.failure)
    (ho : w'.streams.transport.outbound = w.streams.transport.outbound)
    (ht : w.failure = none → w.lines = j.taken ++ w'.lines) (hs : j.sent = []) : w.Moves w' j where
  failure := hf
  lines := ht
  writes := by rw [hs, World.writes, World.writes, ho]; exact (List.append_nil _).symm
  isOpen := by rw [Open, ho]; exact hw

/-- Whatever leaves the streams of the protocol alone takes and sends nothing. -/
theorem Moves.of_transport (hw : w.Open) (h : w'.streams.transport = w.streams.transport)
    {j : Journal} (ht : j.taken = []) (hs : j.sent = []) : w.Moves w' j := by
  refine .of_outbound hw ?_ (congrArg _ h) (fun _ => ?_) hs
  · rw [World.failure, h]
    rfl
  · rw [ht, World.lines, World.lines, h]
    rfl

/-- The streams of a world, followed by the lines of the journal. -/
def following : Following World where
  good := Open
  moves := Moves
  refl hw := .of_transport hw rfl rfl rfl
  trans {u v w j j'} h h' := by
    refine ⟨h'.failure.trans h.failure, fun hf => ?_, ?_, h'.isOpen⟩
    · rw [h.lines hf, h'.lines (h.failure.trans hf), Journal.taken_append, List.append_assoc]
    · rw [h'.writes, h.writes, Journal.sent_append, List.flatMap_append, List.append_assoc]
  stays h := h.isOpen
  returned _ hw := .of_transport hw rfl rfl rfl

theorem readLine_eq (w : World) : ports.readLine w = (w.streams.transport.readLine.1,
    { w with streams.transport := w.streams.transport.readLine.2 }) := rfl

theorem writeLine_eq (w : World) (line : String) :
    ports.writeLine line w = ((w.streams.transport.writeLine line).1,
      { w with streams.transport := (w.streams.transport.writeLine line).2 }) := rfl

theorem log_eq (w : World) (e : Log.Event) :
    ports.log e w = ((), { w with streams.events := w.streams.events ++ [e] }) := rfl

theorem following_ports : following.Ports World.ports where
  log {w} e hw := by
    refine ⟨_, log_eq w e, ?_⟩
    exact Moves.of_transport hw (by rfl) rfl rfl
  write {w line} hw hl := by
    refine ⟨_, by rw [writeLine_eq, Transport.writeLine_open hw hl], fun who => ?_⟩
    exact ⟨rfl, fun _ => rfl, rfl, hw⟩
  take {w w' line} hw hread who := by
    rcases hr : w.streams.transport.readLine with ⟨r, t⟩
    rw [readLine_eq, hr] at hread
    cases hread
    obtain ⟨hl, hf, ho⟩ := Transport.readLine_some hr
    exact .of_outbound hw hf ho (fun _ => hl) rfl
  miss {w w' r} hw hread hmiss who := by
    rcases hr : w.streams.transport.readLine with ⟨r, t⟩
    rw [readLine_eq, hr] at hread
    cases hread
    rcases r with e | _ | line
    · obtain ⟨hne, hf, ho⟩ := Transport.readLine_error hr
      exact .of_outbound hw hf ho (fun h => absurd h hne) rfl
    · obtain ⟨hl, hf, hl', hf', ho⟩ := Transport.readLine_none hr
      exact .of_outbound hw (hf'.trans hf.symm) ho (fun _ => hl.trans hl'.symm) rfl
    · exact absurd rfl (hmiss line)

/-- What a process does besides the streams of the protocol. -/
structure Spares (q : Surroundings (StateM World)) : Prop where
  now : ∀ w, (q.now w).2.streams = w.streams
  clock : ∀ w, (q.clock w).2.streams = w.streams
  stopwatch : ∀ w, (q.stopwatch w).2.streams = w.streams
  variable_ : ∀ name w, (q.variable_ name w).2.streams = w.streams
  spill : ∀ channel content w, (q.spill channel content w).2.streams = w.streams

theorem spares_surroundings : Spares surroundings :=
  ⟨fun _ => rfl, fun _ => rfl, fun _ => rfl, fun _ _ => rfl, fun _ _ _ => rfl⟩

theorem following_process {q : Surroundings (StateM World)} (hq : Spares q) :
    following.Process q where
  now {w} hw := Moves.of_transport hw (congrArg _ (hq.now w)) rfl rfl
  clock {w} hw := Moves.of_transport hw (congrArg _ (hq.clock w)) rfl rfl
  stopwatch {w} hw := Moves.of_transport hw (congrArg _ (hq.stopwatch w)) rfl rfl
  variable_ {w} name hw := Moves.of_transport hw (congrArg _ (hq.variable_ name w)) rfl rfl
  spill {w} channel content hw :=
    Moves.of_transport hw (congrArg _ (hq.spill channel content w)) rfl rfl

end World

/-- A new server has a new session and has made no call. -/
theorem Server.start_parts {idPrefix contextName : String} {x : Server}
    (h : Server.start idPrefix contextName = .ok x) :
    Session.start contextName = .ok x.session ∧ x.client = { idPrefix } := by
  unfold Server.start at h
  rcases hs : Session.start contextName with e | s
  · rw [hs] at h
    cases h
  · rw [hs] at h
    cases h
    exact ⟨rfl, rfl⟩

/-- A run that came to the end of its input has taken every line that is not blank, in order, each
in the loop or in a call, and for each line of the loop it has sent the requests of the calls and
then one response, which has the id of the line. -/
theorem serve_accounts {idPrefix contextName : String} {x : Server}
    (hx : Server.start idPrefix contextName = .ok x) {q : Surroundings (StateM World)}
    (hq : World.Spares q) {bytes : List UInt8} {failure : Option String} {w : World}
    (hin : w.streams.transport.inbound = .ofBytes bytes failure) (hw : w.Open) {fuel : Nat}
    {stats : Stats} {x' : Server} {w' : World}
    (hrun : x.serve World.ports q fuel w = ((.ok stats, x'), w')) :
    ∃ turns : List Turn,
      x.serveNoting World.ports q fuel [] w =
        (((.ok stats, x'), turns.flatMap Turn.entries ++ [.missed .loop]), w') ∧
      (Inbound.ofBytes bytes).lines = turns.flatMap Turn.taken ∧
      w'.writes = w.writes ++ (turns.flatMap Turn.sent).flatMap (fun line => [line, "\n"]) ∧
      (∀ t ∈ turns, t.response.id = idOf t.line.toList) ∧
      stats = ⟨turns.length, turns.countP (·.response.isError)⟩ := by
  have hp : (Policy.asking fun _ => True).Lasting := Policy.lasting_asking fun _ _ _ => trivial
  have hs : x.session.Obeys (Policy.asking fun _ => True) :=
    Session.start_obeys (Server.start_parts hx).1 trivial
  obtain ⟨r, y, c, v, hnoted, hplain, ⟨hm, hmoves, hid⟩, hend, -⟩ :=
    serveNoting_course World.following_ports (World.following_process hq) hp fuel hs [] hw
  rw [hrun] at hplain
  cases hplain
  obtain ⟨⟨hrest, u, u', hu, hlast⟩, hstats⟩ := hend stats rfl
  have hentries : c.entries = c.turns.flatMap Turn.entries ++ [.missed .loop] := by
    rw [Course.entries, hrest]
    rfl
  rw [hentries] at hnoted hmoves
  refine ⟨c.turns, hnoted, ?_, ?_, hid, hstats⟩
  · rcases hr : u.streams.transport.readLine with ⟨r, t⟩
    rw [World.readLine_eq, hr] at hlast
    cases hlast
    obtain ⟨hl, hf, _⟩ := Transport.readLine_none hr
    have hnone : w.failure = none := hu.failure.symm.trans hf
    have hlines : w.lines = (Inbound.ofBytes bytes).lines := by
      rw [World.lines, hin]
      rfl
    rw [← hlines, hu.lines hnone, Journal.taken_turns, World.lines, hl, List.append_nil]
  · rw [hmoves.writes, Journal.sent_append, Journal.sent_turns]
    exact congrArg _ (congrArg _ (List.append_nil _))

/-- A world in which a text is what can be read. -/
def World.ofText (text : String) : World :=
  { streams := ⟨⟨.ofBytes text.toUTF8.toList, {}⟩, []⟩ }

theorem World.ofText_inbound (text : String) :
    (ofText text).streams.transport.inbound = .ofBytes text.toUTF8.toList none := rfl

theorem World.ofText_open (text : String) : (ofText text).Open := ⟨rfl, rfl⟩

theorem World.ofText_writes (text : String) : (ofText text).writes = [] := rfl

/-- A request whose code asks the host, the reply behind a blank line, and a line that is no
request. -/
def sampleInput : String :=
  "\x7b\"id\":1,\"method\":\"execute\",\"params\":\x7b\"code\":\"llm_query('hi')\"\x7d\x7d\n\n" ++
    "\x7b\"id\":\"bridge:1\",\"result\":\"ok\"\x7d\nnonsense\n"

/-- Two of the three lines are taken by the loop. -/
theorem serve_accounts_sample : ∃ (x x' : Server) (w' : World) (turns : List Turn),
    Server.start "bridge" "context" = .ok x ∧
    x.serve World.ports World.surroundings 400 (.ofText sampleInput) = ((.ok ⟨2, 1⟩, x'), w') ∧
    (Inbound.ofBytes sampleInput.toUTF8.toList).lines = turns.flatMap Turn.taken ∧
    w'.writes = (turns.flatMap Turn.sent).flatMap (fun line => [line, "\n"]) ∧
    turns.length = 2 := by
  have h : (Server.start "bridge" "context").toOption.map (fun x =>
      (x.serve World.ports World.surroundings 400 (.ofText sampleInput)).1.1.toOption) =
        some (some ⟨2, 1⟩) := by
    decide +kernel
  rcases hx : Server.start "bridge" "context" with e | x
  · rw [hx] at h
    cases h
  · rw [hx] at h
    rcases hrun : x.serve World.ports World.surroundings 400 (.ofText sampleInput) with
      ⟨⟨e | stats, x'⟩, w'⟩
    · simp only [Except.toOption, Option.map_some, hrun] at h
      cases h
    · simp only [Except.toOption, Option.map_some, hrun] at h
      cases h
      obtain ⟨turns, -, htaken, hsent, -, hstats⟩ :=
        serve_accounts hx World.spares_surroundings (World.ofText_inbound _) (World.ofText_open _)
          hrun
      rw [World.ofText_writes, List.nil_append] at hsent
      exact ⟨x, x', w', turns, rfl, hrun, htaken, hsent, (congrArg Stats.responses hstats).symm⟩

end LuaSession.Service
