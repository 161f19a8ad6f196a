import LuaSession.Bridge.Basic
import LuaSession.Stream.Ports
import LuaSession.Wire.Envelope

/-!
# Asking the host over the streams

Each call writes one request, whose id is the client's prefix and the number of the call, and reads
one line as its reply.
-/

namespace LuaSession.Bridge

open LuaSession.Stream LuaSession.Wire

/-- A client: how its ids begin and how many calls it has made. The number grows without bound; a
counter of 64 bits agrees with it as long as fewer than `2 ^ 64` calls were made. -/
structure Client where
  idPrefix : String
  issued : Nat := 0
  deriving DecidableEq, Repr

/-- The id of call `n`. -/
def Client.callId (c : Client) (n : Nat) : String :=
  c.idPrefix ++ ":" ++ String.ofList (Number.natChars n)

/-- What the line that answers the call `id` says. -/
def readReply (id : String) (line : String) : Except BridgeError Json :=
  match decodeResponse line.toList with
  | .error e => .error (.malformed e.message)
  | .ok r =>
    if r.id.text? = some id then
      match r.outcome with
      | .ok v => .ok v
      | .error e => .error (.remote e.code e.message)
    else .error (.idMismatch id r.id)

/-- Where the client's events come from. -/
def Client.target : String := "rlm_runtime::bridge"

variable {m : Type → Type} [Monad m]

/-- Notes for the log what a reply came to; one that is malformed goes without a note. -/
def Client.logReply (ports : Ports m) (id : String) : Except BridgeError Json → m Unit
  | .error (.idMismatch ..) => ports.log ⟨.warn, Client.target, s!"bridge reply id mismatch {id}"⟩
  | .error (.malformed _) => pure ()
  | _ => ports.log ⟨.debug, Client.target, s!"bridge reply {id}"⟩

/-- Makes a call. -/
def Client.call (ports : Ports m) (c : Client) (method : String) (params : Json) :
    m (Except BridgeError Json × Client) := do
  let n := c.issued + 1
  let id := c.callId n
  let c : Client := { c with issued := n }
  ports.log ⟨.debug, Client.target, s!"bridge request {id} {method}"⟩
  match ← ports.writeLine (Request.encode ⟨.str id, method, params⟩) with
  | .error e => return (.error (.io e.detail), c)
  | .ok () =>
    match ← ports.readLine with
    | .error e => return (.error (.io e.detail), c)
    | .ok none => return (.error (.closed id), c)
    | .ok (some line) =>
      let reply := readReply id line
      Client.logReply ports id reply
      return (reply, c)

/-- The bridge of a client that is kept as state. -/
def Client.bridge (ports : Ports m) : Bridge (StateT Client m) :=
  fun method params c => c.call ports method params

end LuaSession.Bridge
