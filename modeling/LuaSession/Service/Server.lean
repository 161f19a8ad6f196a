import LuaSession.Bridge.Client
import LuaSession.Service.Dispatch

/-!
# The server

The server reads a line, answers it and writes the response, until the input ends. While a line is
answered, evaluated code may ask the host over the same streams, so the lines in between belong to
the bridge.
-/

namespace LuaSession.Service

open LuaSession.Bridge LuaSession.Lua LuaSession.Stream LuaSession.Wire

/-- How many responses were written, and how many of them carry an error. The numbers grow without
bound; counters of 64 bits agree with them below `2 ^ 64`. -/
structure Stats where
  responses : Nat := 0
  errors : Nat := 0
  deriving DecidableEq, Repr

/-- Why a server stopped before the end of its input. -/
inductive Stop
  | transport (e : TransportError)
  | halt (h : Halt)

/-- A server: its session and the client by which it asks the host. -/
structure Server where
  session : Session
  client : Client

/-- The server with ids of some form and a session whose context has some name. -/
def Server.start (idPrefix contextName : String) : Except SessionError Server := do
  return ⟨← Session.start contextName, { idPrefix }⟩

/-- Where the events of the server come from. -/
def serverTarget : String := "rlm_runtime::server"

variable {m : Type → Type} [Monad m]

/-- A process seen by a computation that keeps a client. -/
def withClient (p : Surroundings m) : Surroundings (StateT Client m) where
  now := p.now
  clock := p.clock
  stopwatch := p.stopwatch
  variable_ name := p.variable_ name
  spill channel content := p.spill channel content

/-- The outside of code that asks the host through the streams. -/
def outside (ports : Ports m) (p : Surroundings m) : Outside (StateT Client m) where
  toSurroundings := withClient p
  ask := Client.bridge ports
  log e := ports.log e

/-- Answers a line and writes the response. -/
def Server.answer (o : Outside (StateT Client m)) (ports : Ports m) (fuel : Nat) (x : Server)
    (line : String) : m (Except Stop Bool × Server) := do
  match ← (dispatchLine o fuel x.session line).run x.client with
  | (.error h, client) => return (.error (.halt h), { x with client := client })
  | (.ok (response, session), client) =>
    match ← ports.writeLine response.encode with
    | .error e =>
      ports.log ⟨.error, serverTarget, "outbound stream failed"⟩
      return (.error (.transport e), ⟨session, client⟩)
    | .ok () => return (.ok response.isError, ⟨session, client⟩)

/-- Counts a response. -/
def Stats.count (s : Stats) (isError : Bool) : Stats where
  responses := s.responses + 1
  errors := if isError then s.errors + 1 else s.errors

/-- Answers at most `lines` lines; a run that needs more ends out of steps. Besides its result, it
gives the server as it is in the end. -/
def Server.serveFrom (o : Outside (StateT Client m)) (ports : Ports m) (fuel : Nat) :
    (lines : Nat) → Stats → Server → m (Except Stop Stats × Server)
  | 0, _, x => pure (.error (.halt .outOfSteps), x)
  | lines + 1, stats, x => do
    match ← ports.readLine with
    | .error e =>
      ports.log ⟨.error, serverTarget, "inbound stream failed"⟩
      return (.error (.transport e), x)
    | .ok none => return (.ok stats, x)
    | .ok (some line) =>
      match ← x.answer o ports fuel line with
      | (.error e, x) => return (.error e, x)
      | (.ok isError, x) => Server.serveFrom o ports fuel lines (stats.count isError) x

/-- Answers all lines. -/
def Server.serveWith (o : Outside (StateT Client m)) (ports : Ports m) (fuel : Nat) (x : Server) :
    m (Except Stop Stats × Server) := do
  ports.log ⟨.info, serverTarget, "sandbox server started"⟩
  let (r, x) ← x.serveFrom o ports fuel fuel {}
  match r with
  | .ok _ => ports.log ⟨.info, serverTarget, "inbound stream closed"⟩
  | .error _ => pure ()
  return (r, x)

/-- Answers all lines, asking the host over the same ports. -/
def Server.serve (ports : Ports m) (p : Surroundings m) (fuel : Nat) (x : Server) :
    m (Except Stop Stats × Server) :=
  x.serveWith (outside ports p) ports fuel

end LuaSession.Service
