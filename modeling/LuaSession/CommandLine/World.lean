import LuaSession.CommandLine.Run
import LuaSession.Service.World

/-!
# A world for the program

A world as the host of the program: its log goes into the files of the world, and its complaints to
the stream of the process.
-/

namespace LuaSession.CommandLine

open LuaSession.Service LuaSession.Storage

/-- The tree with a directory and a file in it, or a warning. -/
def openLog (t : Tree) (directory file : String) : Except String Tree := do
  let t ← (t.createDirectories directory).mapError fun e =>
    "cannot create log directory " ++ directory ++ ": " ++ e.message
  (t.append file .empty).mapError fun e =>
    "cannot open log file " ++ file ++ ": " ++ e.message

/-- The working directory as a path. -/
def workingPath (t : Tree) : String :=
  "/" ++ "/".intercalate t.working

/-- A world as a host. -/
def worldHost : Host (StateM World) where
  sources := World.sources
  surroundings := World.surroundings
  readLine := World.ports.readLine
  writeLine := World.ports.writeLine
  workingDirectory := fun w => (workingPath w.tree, w)
  openLog directory file := fun w =>
    match openLog w.tree directory file with
    | .ok tree => (.ok (), { w with tree })
    | .error warning => (.error warning, w)
  append file text := fun w =>
    match w.tree.append file text.toUTF8 with
    | .ok tree => ((), { w with tree })
    | .error _ => ((), w)
  complain text := World.surroundings.spill .err text.toUTF8

end LuaSession.CommandLine
