import LuaSession.CommandLine.Run
import Std.Time.DateTime.Timestamp

/-!
# The executable

The streams, the files, the environment and the clock of the process as the host of the program.
-/

namespace LuaSession.Main

open LuaSession.CommandLine LuaSession.Config LuaSession.Stream

/-- More steps than a program takes. -/
def unbounded : Nat := 0x4000000000000000

/-- The bytes up to and with the next line feed, or to the end. -/
partial def readPiece (input : IO.FS.Stream) (read : ByteArray) : IO ByteArray := do
  let next ← input.read 1
  if next.isEmpty then return read
  let read := read ++ next
  if next.toList == [0x0A] then return read
  readPiece input read

/-- The next line that is not blank. -/
partial def readLine (input : IO.FS.Stream) : IO (Except TransportError (Option String)) := do
  try
    let piece ← readPiece input .empty
    match nextLine none (if piece.isEmpty then [] else [piece.toList]) with
    | (.ok none, _) => if piece.isEmpty then return .ok none else readLine input
    | (r, _) => return r
  catch e => return .error (.read e.toString)

/-- Writes a line. -/
def writeLine (output : IO.FS.Stream) (line : String) : IO (Except TransportError Unit) := do
  try
    output.putStr (line ++ "\n")
    output.flush
    return .ok ()
  catch e => return .error (.write e.toString)

/-- What is found where a file may be. -/
def file (path : String) : IO FileContent := do
  let place := (← IO.currentDir) / path
  if !(← place.pathExists) then return .absent
  else if ← place.isDir then return .unreadable "Is a directory (os error 21)"
  else
    try return .bytes (← IO.FS.readBinFile place)
    catch e => return .unreadable e.toString

/-- The value of a variable of the environment. -/
def environmentValue (name : String) : IO (Option ByteArray) := do
  return (← IO.getEnv name).map String.toUTF8

/-- Adds to a file. -/
def append (path text : String) : IO Unit := do
  try
    let handle ← IO.FS.Handle.mk path .append
    handle.putStr text
    handle.flush
  catch _ => return

/-- Makes a directory and a file in it. -/
def openLog (directory path : String) : IO (Except String Unit) := do
  try
    if !directory.isEmpty then IO.FS.createDirAll directory
  catch e => return .error ("cannot create log directory " ++ directory ++ ": " ++ e.toString)
  try
    let _ ← IO.FS.Handle.mk path .append
    return .ok ()
  catch e => return .error ("cannot open log file " ++ path ++ ": " ++ e.toString)

/-- The process as a host. -/
def host : IO (Host IO) := do
  let input ← IO.getStdin
  let output ← IO.getStdout
  let complaints ← IO.getStderr
  return {
    sources := {
      file
      variable_ := environmentValue
      home := IO.getEnv "HOME" }
    surroundings := {
      now := return (← Std.Time.Timestamp.now).toSecondsSinceUnixEpoch.val
      clock := return (← IO.monoMsNow).toFloat / 1000
      stopwatch := return (← IO.monoMsNow).toFloat
      variable_ := environmentValue
      spill := fun channel content => do
        let stream := match channel with
          | .out => output
          | .err => complaints
        stream.write content
        stream.flush }
    readLine := readLine input
    writeLine := writeLine output
    workingDirectory := return (← IO.currentDir).toString
    openLog
    append
    complain := fun text => complaints.putStr text }

end LuaSession.Main

/-- Runs the program on the process. -/
def main (args : List String) : IO UInt32 := do
  let host ← LuaSession.Main.host
  let ending ← LuaSession.CommandLine.run host LuaSession.Main.unbounded args
  (← IO.getStdout).putStr ending.output
  (← IO.getStderr).putStr ending.complaint
  return ending.code.toUInt32
