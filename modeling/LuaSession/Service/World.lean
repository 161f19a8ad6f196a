import LuaSession.Config.Load
import LuaSession.Service.Server
import LuaSession.Storage.Tree

/-!
# A world for a server

The streams, the files, the log and the process of a server as a value. Time stands still in it.
-/

namespace LuaSession.Service

open LuaSession.Lua LuaSession.Stream

/-- Something that a program wrote to a stream of the process, after so many writes of the server. -/
structure Spill where
  channel : Channel
  content : ByteArray
  after : Nat

/-- A world: the streams of the protocol with the events for the log, what programs wrote to the
streams of the process, the files, the environment, the home of the user and the time. -/
structure World where
  streams : Stream.World := ⟨⟨.ofBytes [], {}⟩, []⟩
  spilled : List Spill := []
  tree : Storage.Tree := {}
  environment : List (String × ByteArray) := []
  home : Option String := none
  now : Int := 0

namespace World

/-- Does something with the streams. -/
def withStreams {α : Type} (f : StateM Stream.World α) : StateM World α := fun w =>
  let (a, s) := f w.streams
  (a, { w with streams := s })

/-- The ports of a world. -/
def ports : Ports (StateM World) where
  readLine := withStreams Stream.World.ports.readLine
  writeLine line := withStreams (Stream.World.ports.writeLine line)
  log e := withStreams (Stream.World.ports.log e)

/-- The value of a variable of the environment. -/
def environmentValue (w : World) (name : String) : Option ByteArray :=
  w.environment.lookup name

/-- The process of a world. -/
def surroundings : Surroundings (StateM World) where
  now := fun w => (w.now, w)
  clock := pure 0.0
  stopwatch := pure 0.0
  variable_ name := fun w => (w.environmentValue name, w)
  spill channel content := fun w =>
    let after := w.streams.transport.outbound.writes.length
    ((), { w with spilled := w.spilled ++ [⟨channel, content, after⟩] })

/-- The files and the environment of a world as sources of settings. -/
def sources : Config.Sources (StateM World) where
  file path := fun w =>
    (match w.tree.entry? path with
      | none => .absent
      | some .directory => .unreadable Storage.StorageError.isDirectory.message
      | some (.file content) => .bytes content, w)
  variable_ name := fun w => (w.environmentValue name, w)
  home := fun w => (w.home, w)

/-- What was written to a stream of the process, in order. Lines of protocol go to the output. -/
def written (w : World) (channel : Channel) : ByteArray :=
  let writes := if channel = .out then w.streams.transport.outbound.writes else []
  let spilled := w.spilled.filter (·.channel = channel)
  let at_ (n : Nat) : List ByteArray := (spilled.filter (·.after = n)).map (·.content)
  let pieces := (List.range (w.streams.transport.outbound.writes.length + 1)).flatMap fun n =>
    at_ n ++ (writes[n]?.map String.toUTF8).toList
  pieces.foldl (· ++ ·) .empty

end World

end LuaSession.Service
