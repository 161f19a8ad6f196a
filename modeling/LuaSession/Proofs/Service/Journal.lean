import LuaSession.Service.Server

/-!
# A journal of the lines

The loop of the server and the calls to the host read and write the same streams. Here the server is
run with a journal beside it: each line is noted by who takes or sends it, and each call by what it
comes to. The code that runs is the same; only the ports note what goes through them.
-/

namespace LuaSession.Service

open LuaSession.Bridge LuaSession.Lua LuaSession.Stream LuaSession.Wire

/-- Who takes or sends a line. -/
inductive Party
  | loop
  | call
  deriving DecidableEq, Repr

/-- What is noted: a line that was taken, a reading that found none, a line that was sent, and how a
call ended. -/
inductive Entry
  | took (who : Party) (line : String)
  | missed (who : Party)
  | sent (who : Party) (line : String)
  | returned (reply : Except BridgeError Json)

/-- What was noted so far, in order. -/
abbrev Journal := List Entry

variable {m : Type → Type} [Monad m]

/-- Ports that note the lines that one party takes and sends. -/
def noting (who : Party) (ports : Ports m) : Ports (StateT Journal m) where
  readLine j := do
    let r ← ports.readLine
    return (r, match r with
      | .ok (some line) => j ++ [.took who line]
      | _ => j ++ [.missed who])
  writeLine line j := do
    let r ← ports.writeLine line
    return (r, match r with
      | .ok () => j ++ [.sent who line]
      | .error _ => j)
  log e j := do
    let r ← ports.log e
    return (r, j)

/-- A process seen by a computation that keeps a journal. -/
def withJournal (p : Surroundings m) : Surroundings (StateT Journal m) where
  now := p.now
  clock := p.clock
  stopwatch := p.stopwatch
  variable_ name := p.variable_ name
  spill channel content := p.spill channel content

/-- The outside of evaluated code, whose calls are noted with their ends. -/
def notingOutside (ports : Ports m) (p : Surroundings m) :
    Outside (StateT Client (StateT Journal m)) where
  toSurroundings := withClient (withJournal p)
  ask method params c j := do
    let ((r, c), j) ← c.call (noting .call ports) method params j
    return ((r, c), j ++ [.returned r])
  log e := (noting .loop ports).log e

/-- The server with its journal. -/
def Server.serveNoting (ports : Ports m) (p : Surroundings m) (fuel : Nat) (x : Server) :
    StateT Journal m (Except Stop Stats × Server) :=
  x.serveWith (notingOutside ports p) (noting .loop ports) fuel

/-! ### Turns -/

/-- A call as the journal shows it: the request, the line that was taken as the reply if one was, and
how the call ended. -/
structure Exchange where
  request : Wire.Request
  reply : Option String
  outcome : Except BridgeError Json

/-- What the journal notes of a reading. -/
def readEntry (who : Party) : Option String → Entry
  | some line => .took who line
  | none => .missed who

/-- What the journal notes of a call. -/
def Exchange.entries (e : Exchange) : Journal :=
  [.sent .call e.request.encode, readEntry .call e.reply, .returned e.outcome]

/-- One round of the loop: the line it takes, the calls while the line is answered, and the
response. -/
structure Turn where
  line : String
  calls : List Exchange
  response : Response

namespace Turn

/-- What the journal notes of a round. -/
def entries (t : Turn) : Journal :=
  .took .loop t.line :: t.calls.flatMap Exchange.entries ++ [.sent .loop t.response.encode]

/-- The lines taken in a round: the one of the loop and those of the calls. -/
def taken (t : Turn) : List String :=
  t.line :: t.calls.filterMap (·.reply)

/-- The lines sent in a round: the requests of the calls and then the response. -/
def sent (t : Turn) : List String :=
  t.calls.map (·.request.encode) ++ [t.response.encode]

end Turn

/-- What comes after the rounds of a run: nothing, a reading that found no line, or a line that was
never answered because the run ended in a call or in the program itself. -/
inductive Rest
  | nothing
  | missed
  | cut (line : String) (calls : List Exchange)

namespace Rest

/-- What the journal notes of the rest of a run. -/
def entries : Rest → Journal
  | .nothing => []
  | .missed => [.missed .loop]
  | .cut line calls => .took .loop line :: calls.flatMap Exchange.entries

/-- The calls in the rest of a run. -/
def calls : Rest → List Exchange
  | .cut _ calls => calls
  | _ => []

end Rest

/-! ### What a journal says -/

/-- The line that an entry says was taken. -/
def Entry.taken? : Entry → Option String
  | .took _ line => some line
  | _ => none

/-- The line that an entry says was sent. -/
def Entry.sent? : Entry → Option String
  | .sent _ line => some line
  | _ => none

namespace Journal

/-- The lines that were taken. -/
def taken (j : Journal) : List String := j.filterMap Entry.taken?

/-- The lines that were sent. -/
def sent (j : Journal) : List String := j.filterMap Entry.sent?

theorem taken_append (j j' : Journal) : taken (j ++ j') = taken j ++ taken j' :=
  List.filterMap_append

theorem sent_append (j j' : Journal) : sent (j ++ j') = sent j ++ sent j' :=
  List.filterMap_append

theorem taken_exchanges (calls : List Exchange) :
    taken (calls.flatMap Exchange.entries) = calls.filterMap (·.reply) := by
  induction calls with
  | nil => rfl
  | cons e calls ih =>
    rw [List.flatMap_cons, taken_append, ih]
    obtain ⟨request, reply, outcome⟩ := e
    cases reply <;> rfl

theorem sent_exchanges (calls : List Exchange) :
    sent (calls.flatMap Exchange.entries) = calls.map (·.request.encode) := by
  induction calls with
  | nil => rfl
  | cons e calls ih =>
    rw [List.flatMap_cons, sent_append, ih]
    obtain ⟨request, reply, outcome⟩ := e
    cases reply <;> rfl

theorem taken_turn (t : Turn) : taken t.entries = t.taken := by
  change t.line :: taken (t.calls.flatMap Exchange.entries ++ _) = _
  rw [taken_append, taken_exchanges]
  exact congrArg _ (List.append_nil _)

theorem sent_turn (t : Turn) : sent t.entries = t.sent := by
  change sent (t.calls.flatMap Exchange.entries ++ [.sent .loop t.response.encode]) = _
  rw [sent_append, sent_exchanges]
  rfl

theorem taken_turns (turns : List Turn) :
    taken (turns.flatMap Turn.entries) = turns.flatMap Turn.taken := by
  induction turns with
  | nil => rfl
  | cons t turns ih => rw [List.flatMap_cons, taken_append, ih, taken_turn, List.flatMap_cons]

theorem sent_turns (turns : List Turn) :
    sent (turns.flatMap Turn.entries) = turns.flatMap Turn.sent := by
  induction turns with
  | nil => rfl
  | cons t turns ih => rw [List.flatMap_cons, sent_append, ih, sent_turn, List.flatMap_cons]

end Journal

end LuaSession.Service
