import LuaSession.Lua.Arguments
import LuaSession.Lua.Reader

/-!
# The basic library

Errors, types, metatables, traversal, and the loading of programs.
-/

namespace LuaSession.Lua

open LuaSession.Lua.Task

namespace BasicFn

/-- The functions under the names that programs find. -/
def all : List (String × BasicFn) :=
  [("assert", .assert), ("collectgarbage", .collectgarbage), ("dofile", .dofile), ("error", .error),
   ("getmetatable", .getmetatable), ("ipairs", .ipairs), ("load", .load), ("loadfile", .loadfile),
   ("next", .next), ("pairs", .pairs), ("pcall", .pcall), ("print", .print),
   ("rawequal", .rawequal), ("rawget", .rawget), ("rawlen", .rawlen), ("rawset", .rawset),
   ("require", .require), ("select", .select), ("setmetatable", .setmetatable),
   ("tonumber", .tonumber), ("tostring", .tostring), ("type", .type), ("warn", .warn),
   ("xpcall", .xpcall)]

/-! ### Errors -/

/-- Raises a value; a string gets the place of a level in front. -/
def raiseAt {α : Type} (c : Call) (e : Value) (level : Int) : Task α := do
  match e with
  | .str s =>
    if level ≤ 0 then raise e
    else
      let spot ← if level == 1 then pure c.site.spot else inquire (.spot level.toNat)
      failAt spot s
  | _ => raise e

/-- The results of a protected call. -/
def outcome : Except Value (List Value) → List Value
  | .ok vs => .bool true :: vs
  | .error e => [.bool false, e]

/-! ### Loading -/

/-- What is wrong with a source that begins like a binary one. -/
def binaryFault (source : ByteArray) : String :=
  if source.size < 4 || bytesEq (sliceBytes source 0 4) (bytes "\x1bLua") then "truncated chunk"
  else "not a binary chunk"

/-- How the fault of a binary source calls it. -/
def binaryName (name : ByteArray) : ByteArray :=
  match name.data.toList with
  | 0x40 :: r => ofByteList r
  | 0x3D :: r => ofByteList r
  | 0x1B :: _ => bytes "binary string"
  | _ => name

/-- Reads a source that may be text or binary, as the mode allows. -/
def compile (source name mode : ByteArray) : Except ByteArray Proto :=
  let refuse (kind : String) : Except ByteArray Proto :=
    .error (joinBytes [bytes ("attempt to load a " ++ kind ++ " chunk (mode is '"), mode, bytes "')"])
  if source.data[0]? == some 0x1B then
    if mode.data.contains 0x62 then
      .error (joinBytes
        [binaryName name, bytes (": bad binary format (" ++ binaryFault source ++ ")")])
    else refuse "binary"
  else if mode.data.contains 0x74 then
    match readChunk source (chunkName name) with
    | .ok f => .ok f
    | .error e => .error e.message
  else refuse "text"

/-- A function of a program that was read; its `_ENV` is a value. -/
def enclose (f : Proto) (env : Value) : Task Value :=
  change fun m =>
    let (cell, m) := m.newCell env
    let (id, m) := m.newFunc (.closure f #[cell])
    (.func id, m)

/-- The pieces of a source that a function gives one by one, up to an empty one. -/
def sourceFrom (c : Call) (f : Value) : Task (Except Value ByteArray) := do
  let r ← protectValues .plain do
    let flow ← loop [.str ByteArray.empty] fun state => do
      let made := match state with
        | [.str s] => s
        | _ => ByteArray.empty
      match ← callOne f [] c.inner with
      | .nil => return .inr (.give [.str made])
      | v =>
        match v with
        | .str s =>
          if s.isEmpty then return .inr (.give [.str made]) else return .inl [.str (made ++ s)]
        | _ => c.fail "reader function must return a string"
    match flow with
    | .give vs => return vs
    | _ => return []
  match r with
  | .ok [.str s] => return .ok s
  | .ok _ => return .ok ByteArray.empty
  | .error e => return .error e

/-- Loads a program. -/
def loadChunk (c : Call) : Task (List Value) := do
  let mode ← c.stringOr 3 (bytes "bt")
  let load (source name : ByteArray) : Task (List Value) := do
    match compile source name mode with
    | .error e => return [.nil, .str e]
    | .ok f =>
      let env ← if c.has 4 then pure (c.arg 4) else read fun m => .table m.globals
      return [← enclose f env]
  match toBytes? (c.arg 1) with
  | some s => load s (← c.stringOr 2 s)
  | none =>
    let name ← c.stringOr 2 (bytes "=(load)")
    let f ← c.function 1
    match ← sourceFrom c f with
    | .ok s => load s name
    | .error e => return [.nil, e]

/-- The failure to open a file. -/
def cannotOpen (name : ByteArray) : Value :=
  .str (joinBytes [bytes "cannot open ", name, bytes ": No such file or directory"])

/-- Gives a module that is loaded, or loads it by a function that programs put in place for it. -/
def loadModule (c : Call) : Task (List Value) := do
  let name ← c.string 1
  let package ← read fun m => m.rawGet m.globals (.text "package")
  let part (field : String) : Task Value := read fun m => match package with
    | .table id => m.rawGet id (.text field)
    | _ => .nil
  let loaded ← part "loaded"
  let found ← index none loaded (.str name) none
  if found.truthy then return [found]
  let preload ← part "preload"
  let loader ← match preload with
    | .table _ => index none preload (.str name) none
    | _ => pure .nil
  match loader with
  | .func _ =>
    let r ← callOne loader [.str name, .text ":preload:"] c.inner
    if !r.isNil then setIndex none loaded (.str name) r none
    let made ← index none loaded (.str name) none
    if made.isNil then
      setIndex none loaded (.str name) (.bool true) none
      return [.bool true, .text ":preload:"]
    return [made, .text ":preload:"]
  | _ =>
    failAt c.site.spot (joinBytes [bytes "module '", name, bytes "' not found:\n\tno field package.preload['",
      name, bytes "']"])

/-! ### Numerals in any base -/

/-- The value of a digit or a letter as a digit. -/
def digitOf? (b : UInt8) : Option Nat :=
  if 0x30 ≤ b && b ≤ 0x39 then some (b.toNat - 0x30)
  else if 0x41 ≤ b && b ≤ 0x5A then some (b.toNat - 0x41 + 10)
  else if 0x61 ≤ b && b ≤ 0x7A then some (b.toNat - 0x61 + 10)
  else none

/-- The integer that a string is in a base, with blanks and a sign allowed. -/
def integerIn? (base : Nat) (s : List UInt8) : Option Int64 :=
  let s := s.dropWhile isSpaceByte
  let (negative, s) := match s with
    | 0x2D :: r => (true, r)
    | 0x2B :: r => (false, r)
    | _ => (false, s)
  let ds := (s.takeWhile fun b => (digitOf? b).isSome).filterMap digitOf?
  if ds.isEmpty || ds.any (base ≤ ·) || !isBlankRest (s.drop ds.length) then none
  else
    let n := Int64.ofNat (ofBase base ds)
    some (if negative then -n else n)

/-! ### Functions -/

/-- What programs ask of the collector. Memory is never short, so only the settings are kept. -/
def collect (c : Call) : Task (List Value) := do
  let word ← c.choice 1 (some "collect")
    ["stop", "restart", "collect", "count", "step", "setpause", "setstepmul", "isrunning",
     "generational", "incremental"]
  let set (f : Collector → Collector) : Task Unit :=
    update fun m => { m with collector := f m.collector }
  let mode (g : Collector) : Value := .text (if g.generational then "generational" else "incremental")
  let old ← read (·.collector)
  match word with
  | "stop" => set fun g => { g with running := false }; return [.int 0]
  | "restart" => set fun g => { g with running := true }; return [.int 0]
  | "count" =>
    let n ← read fun m => m.tables.size + m.funcs.size + m.cells.size
    return [.float (Float.ofNat (n * 64) / 1024.0)]
  | "step" =>
    let _ ← c.intOr 2 0
    return [.bool true]
  | "setpause" =>
    let n ← c.intOr 2 0
    set fun g => { g with pause := n }
    return [.ofInt old.pause]
  | "setstepmul" =>
    let n ← c.intOr 2 0
    set fun g => { g with pace := n }
    return [.ofInt old.pace]
  | "isrunning" => return [.bool old.running]
  | "generational" => set fun g => { g with generational := true }; return [mode old]
  | "incremental" => set fun g => { g with generational := false }; return [mode old]
  | _ => return [.int 0]

/-- The texts of values with tabs between them. -/
def lineOf (c : Call) : (first : Bool) → List Value → Task ByteArray
  | _, [] => return bytes "\n"
  | first, v :: vs => do
    let s ← text c.site.spot v
    let rest ← lineOf c false vs
    return joinBytes [if first then ByteArray.empty else bytes "\t", s, rest]

/-- Runs a function. -/
def run (f : BasicFn) (c : Call) : Task (List Value) := do
  match f with
  | .assert =>
    if (c.arg 1).truthy then return c.args
    let _ ← c.any 1
    raiseAt c ((c.args.drop 1).headD (.text "assertion failed!")) 1
  | .collectgarbage => collect c
  | .dofile =>
    let name ← c.string 1
    raise (cannotOpen name)
  | .loadfile =>
    let name ← c.string 1
    return [.nil, cannotOpen name]
  | .error => raiseAt c (c.arg 1) (← c.intOr 2 1)
  | .getmetatable =>
    let v ← c.any 1
    match ← read (·.metatable v) with
    | none => return [.nil]
    | some id =>
      let guarded ← read fun m => (m.table id).getText "__metatable"
      return [if guarded.isNil then .table id else guarded]
  | .ipairs =>
    let v ← c.any 1
    return [.func Mem.ipairsFunc, v, .int 0]
  | .ipairsStep =>
    let i ← c.int 2
    let v ← index none (c.arg 1) (.ofInt (i + 1)) none
    return if v.isNil then [.nil] else [.ofInt (i + 1), v]
  | .load => loadChunk c
  | .next =>
    let id ← c.table 1
    match ← read fun m => (m.table id).next? (c.arg 2) with
    | none => fail none "invalid key to 'next'"
    | some none => return [.nil]
    | some (some (k, v)) => return [k, v]
  | .pairs =>
    let v ← c.any 1
    let tm ← read (·.metamethod v "__pairs")
    if tm.isNil then return [.func Mem.nextFunc, v, .nil]
    let rs ← call tm [v] { c.inner with fixed := false }
    return [rs.getD 0 .nil, rs.getD 1 .nil, rs.getD 2 .nil]
  | .pcall =>
    let f ← c.any 1
    return outcome (← protectValues .plain (call f (c.args.drop 1) { deep := true }))
  | .xpcall =>
    let handler ← c.function 2
    let r ← protectValues (.handler handler) (call (c.arg 1) (c.args.drop 2) { deep := true })
    return outcome r
  | .print =>
    let line ← lineOf c true c.args
    ask (.spill .out line)
    return []
  | .rawequal =>
    let a ← c.any 1
    let b ← c.any 2
    return [.bool (rawEq a b)]
  | .rawget =>
    let id ← c.table 1
    let k ← c.any 2
    return [← read (·.rawGet id k)]
  | .rawlen =>
    match c.arg 1 with
    | .table id => return [.ofNat (← read fun m => (m.table id).length)]
    | .str s => return [.ofNat s.size]
    | _ => c.failArg 1 (bytes "table or string expected")
  | .rawset =>
    let id ← c.table 1
    let k ← c.any 2
    let v ← c.any 3
    setRaw none id k v
    return [.table id]
  | .require => loadModule c
  | .select =>
    match c.arg 1 with
    | .str s =>
      if s.data[0]? == some 0x23 then return [.ofNat (c.args.length - 1)]
    | _ => pure ()
    let count : Int := c.args.length
    let i ← c.int 1
    let place := if i < 0 then count + i else min i count
    if place < 1 then c.failArg 1 (bytes "index out of range")
    return c.args.drop place.toNat
  | .setmetatable =>
    let id ← c.table 1
    let new ← match c.arg 2 with
      | .table n => pure (some n)
      | .nil => if c.has 2 then pure none else c.failType 2 "nil or table"
      | _ => c.failType 2 "nil or table"
    let guarded ← read (·.metamethod (.table id) "__metatable")
    if !guarded.isNil then c.fail "cannot change a protected metatable"
    update fun m => m.modifyTable id fun t => { t with metatable := new }
    return [.table id]
  | .tonumber =>
    if c.lacks 2 then
      match toNumber? (c.arg 1) with
      | some v => return [v]
      | none =>
        let _ ← c.any 1
        return [.nil]
    let base ← c.int 2
    match c.arg 1 with
    | .str s =>
      if base < 2 || 36 < base then c.failArg 2 (bytes "base out of range")
      return [((integerIn? base.toNat s.data.toList).map Value.int).getD .nil]
    | _ => c.failType 1 "string"
  | .tostring =>
    let v ← c.any 1
    return [.str (← text c.site.spot v)]
  | .type => return [.text (← c.any 1).typeName]
  | .warn =>
    let first ← c.string 1
    let more ← (List.range (c.args.length - 1)).mapM fun i => c.string (i + 2)
    if more.isEmpty && first.data[0]? == some 0x40 then
      update fun m =>
        if bytesEq first (bytes "@on") then { m with warnings := true }
        else if bytesEq first (bytes "@off") then { m with warnings := false }
        else m
    else if ← read (·.warnings) then
      ask (.spill .err (joinBytes ([bytes "Lua warning: ", first] ++ more ++ [bytes "\n"])))
    return []

end BasicFn

end LuaSession.Lua
