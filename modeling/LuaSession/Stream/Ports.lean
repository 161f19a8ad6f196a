import LuaSession.Log.Event
import LuaSession.Stream.Transport

/-!
# Ports

How the program reaches the outside: a line in, a line out, an event for the log. The rest of the
library is written over ports, so it runs the same over real streams and over `World`, in which the
streams are values and the events are kept.
-/

namespace LuaSession.Stream

/-- The ways to the outside. -/
structure Ports (m : Type → Type) where
  readLine : m (Except TransportError (Option String))
  writeLine : String → m (Except TransportError Unit)
  log : Log.Event → m Unit

/-- The outside as a value. -/
structure World where
  transport : Transport
  events : List Log.Event := []
  deriving Repr

/-- The ports of a world. -/
def World.ports : Ports (StateM World) where
  readLine := fun w =>
    let (r, t) := w.transport.readLine
    (r, { w with transport := t })
  writeLine := fun line w =>
    let (r, t) := w.transport.writeLine line
    (r, { w with transport := t })
  log := fun e w => ((), { w with events := w.events ++ [e] })

end LuaSession.Stream
