import LuaSession.Lua.Arguments

/-!
# The file library

The library of a process without files. The only files are the streams of the process: nothing can be
opened, no command can be started, and the first stream is at its end.

This restricts what is said about programs. Where there are files, `io.open`, `io.lines`, `io.popen` and
`io.tmpfile` give them, and a program that reads the first stream takes from the process what comes in
there. Such programs are covered as far as a process goes in which all of this fails.
-/

namespace LuaSession.Lua

open LuaSession.Lua.Task

namespace IoFn

/-- The functions under the names that programs find. -/
def all : List (String × IoFn) :=
  [("close", .close), ("flush", .flush), ("input", .input), ("lines", .lines), ("open", .open_),
   ("output", .output), ("popen", .popen), ("read", .read), ("tmpfile", .tmpfile), ("type", .type),
   ("write", .write)]

/-- The functions of files under the names of their methods. -/
def methods : List (String × IoFn) :=
  [("close", .fileClose), ("flush", .fileFlush), ("lines", .fileLines), ("read", .fileRead),
   ("seek", .fileSeek), ("setvbuf", .fileSetvbuf), ("write", .fileWrite)]

/-- The name of the type of files. -/
def typeName : String := "FILE*"

/-- A file. -/
def file (c : Call) (n : Nat) : Task Nat :=
  match c.arg n with
  | .file id => pure id
  | _ => c.failType n typeName

/-- The results of an operation on a file that does not exist. -/
def missing (name : ByteArray) : List Value :=
  [.nil, .str (joinBytes [name, bytes ": No such file or directory"]), .int 2]

/-- Raises that a file cannot be opened. -/
def cannotOpen {α : Type} (c : Call) (name : ByteArray) : Task α :=
  failAt c.site.spot (joinBytes
    [bytes "cannot open file '", name, bytes "' (No such file or directory)"])

/-- Whether a word is a mode of files. -/
def isMode (mode : List UInt8) : Bool :=
  match mode with
  | b :: r =>
    (b == 0x72 || b == 0x77 || b == 0x61) &&
      (let r := if r.head? == some 0x2B then r.drop 1 else r
       r.isEmpty || r == [0x62])
  | [] => false

/-- Writes strings and numbers, from the argument at place `n` on. -/
def writeArgs (c : Call) (id : Nat) (result : Value) : (fuel : Nat) → (n : Nat) → Task (List Value)
  | 0, _ => return [result]
  | fuel + 1, n => do
    if !c.has n then return [result]
    let s ← c.string n
    if id == 0 then return [.nil, .text "Bad file descriptor", .int 9]
    ask (.spill (if id == 2 then .err else .out) s)
    writeArgs c id result fuel (n + 1)

/-- What a format reads at the end of a file. -/
def readEmpty (c : Call) (n : Nat) : Task Value := do
  match c.arg n with
  | .int _ | .float _ => return .nil
  | _ =>
    let s ← c.string n
    match (match s.data.toList with
      | 0x2A :: r => r
      | r => r) with
    | 0x61 :: _ => return .text ""
    | 0x6C :: _ | 0x4C :: _ | 0x6E :: _ => return .nil
    | _ => c.failArg n (bytes "invalid format")

/-- What the formats from the argument at place `n` on read, up to the first that fails. -/
def readArgs (c : Call) : (fuel : Nat) → (n : Nat) → Task (List Value)
  | 0, _ => return []
  | fuel + 1, n => do
    if !c.has n then return []
    match ← readEmpty c n with
    | .nil => return [.nil]
    | v => return v :: (← readArgs c fuel (n + 1))

/-- What a read gives. -/
def readFrom (c : Call) (id n : Nat) : Task (List Value) :=
  if id != 0 then return [.nil, .text "Bad file descriptor", .int 9]
  else if c.has n then readArgs c (c.args.length + 1) n
  else return [.nil]

/-- Runs a function. What would open a file or start a command fails with the words for a file that
is missing. -/
def run (f : IoFn) (c : Call) : Task (List Value) := do
  let closing (id : Nat) : Task (List Value) := do
    if id ≤ 2 then return [.nil, .text "cannot close standard file", .int (-1)]
    return [.bool true]
  match f with
  | .close => if c.has 1 then closing (← file c 1) else closing 1
  | .fileClose => closing (← file c 1)
  | .flush => return [.file 1]
  | .fileFlush => return [.file (← file c 1)]
  | .input | .output =>
    let default : Nat := match f with
      | .input => 0
      | _ => 1
    match c.arg 1 with
    | .nil => return [.file default]
    | .str name => cannotOpen c name
    | _ => return [.file (← file c 1)]
  | .lines =>
    if c.lacks 1 then return [← newBuiltin (.io .linesStep), .nil, .nil, .nil]
    cannotOpen c (← c.string 1)
  | .fileLines =>
    let _ ← file c 1
    return [← newBuiltin (.io .linesStep)]
  | .linesStep => return [.nil]
  | .open_ =>
    let name ← c.string 1
    let mode ← c.stringOr 2 (bytes "r")
    if !isMode mode.data.toList then c.failArg 2 (bytes "invalid mode")
    return missing name
  | .popen =>
    let name ← c.string 1
    let mode ← c.stringOr 2 (bytes "r")
    if !(bytesEq mode (bytes "r") || bytesEq mode (bytes "w")) then
      c.failArg 2 (bytes "invalid mode")
    return missing name
  | .tmpfile => return [.nil, .text "No such file or directory", .int 2]
  | .read => readFrom c 0 1
  | .fileRead => readFrom c (← file c 1) 2
  | .type =>
    match ← c.any 1 with
    | .file _ => return [.text "file"]
    | _ => return [.nil]
  | .write => writeArgs c 1 (.file 1) (c.args.length + 1) 1
  | .fileWrite =>
    let id ← file c 1
    writeArgs c id (.file id) (c.args.length + 1) 2
  | .fileSeek =>
    let _ ← file c 1
    return [.nil, .text "Illegal seek", .int 29]
  | .fileSetvbuf =>
    let _ ← file c 1
    let _ ← c.choice 2 none ["no", "full", "line"]
    return [.bool true]
  | .fileText =>
    let id ← file c 1
    return [.text ("file (" ++ addressOf 5 id ++ ")")]

end IoFn

end LuaSession.Lua
