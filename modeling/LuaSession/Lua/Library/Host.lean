import LuaSession.Lua.Arguments
import LuaSession.Lua.Exchange
import LuaSession.Search.Embedded
import LuaSession.Search.Line
import LuaSession.Search.Section
import LuaSession.Text.Chunk

/-!
# Functions of the host

What the host puts in place of the functions that write and read: output goes to the captured
streams, reading is refused. Beside them are the functions that search the context and those that
ask the host. A failure of any of them is an object of its own, not a string.
-/

namespace LuaSession.Lua

open LuaSession.Lua.Task

namespace HostFn

/-! ### Arguments -/

/-- The name of a value's type where an argument is converted. -/
def kindOf : Value → String
  | .int _ => "integer"
  | .failure _ => "error"
  | v => v.typeName

/-- Raises that an argument cannot be converted. -/
def failConversion {α : Type} (c : Call) (n : Nat) (wanted note : String) : Task α :=
  let kind := kindOf (c.arg n)
  raiseHost (.conversion s!"bad argument #{n}: error converting Lua {kind} to {wanted}{note}")

/-- A string of any bytes. -/
def byteString (c : Call) (n : Nat) : Task ByteArray :=
  match toBytes? (c.arg n) with
  | some s => pure s
  | none => failConversion c n "string" " (expected string or number)"

/-- A string of any bytes as a text. -/
def looseText (c : Call) (n : Nat) : Task String := do
  return Text.Utf8.decodeBytes (← byteString c n)

/-- A text. -/
def strictText (c : Call) (n : Nat) : Task (List Char) :=
  match toBytes? (c.arg n) with
  | some s =>
    match Text.Utf8.decode? s with
    | .ok t => pure t.toList
    | .error f =>
      let what := f.message
      failConversion c n "String" s!" ({what})"
  | none => failConversion c n "String" " (expected string or number)"

/-- An integer; a double is cut to one. -/
def integer (c : Call) (n : Nat) : Task Int :=
  match toNumber? (c.arg n) with
  | some (.int i) => pure i.toInt
  | some (.float x) =>
    match Number.truncate? x with
    | some i =>
      if -0x8000000000000000 ≤ i && i < 0x8000000000000000 then pure i else failConversion c n "i64" " (out of range)"
    | none => failConversion c n "i64" " (out of range)"
  | _ => failConversion c n "i64" " (expected number or string coercible to number)"

/-- An integer that may be missing. -/
def integerOr (c : Call) (n : Nat) (default : Int) : Task Int :=
  if c.lacks n then pure default else integer c n

/-- A count that may be missing; a negative one is zero. -/
def countOr (c : Call) (n default : Nat) : Task Nat := do
  return (← integerOr c n default).toNat

/-- A table. -/
def table (c : Call) (n : Nat) : Task Value :=
  match c.arg n with
  | .table id => pure (.table id)
  | _ => failConversion c n "table" ""

/-- A sequence of strings of any bytes, as texts. -/
def looseTexts (c : Call) (n : Nat) : Task (List String) := do
  match c.arg n with
  | .table id =>
    let items ← read fun m => Mem.sequence (m.table id)
    items.mapM fun v =>
      match toBytes? v with
      | some s => pure (Text.Utf8.decodeBytes s)
      | none =>
        let kind := kindOf v
        raiseHost (.conversion
          s!"bad argument #{n}: error converting Lua {kind} to string (expected string or number)")
  | _ => failConversion c n "Vec<String>" " (expected table)"

/-! ### Calls of the host -/

/-- What a failure inside a call that the host made is. -/
def causeOf (e : Value) : Task HostError :=
  match e with
  | .failure id => read fun m => m.failures.getD id (.runtime ByteArray.empty)
  | .str s => pure (.runtime s)
  | _ => pure (.runtime ByteArray.empty)

/-- Runs a part as the host does: what it raises is a failure of the host. -/
def guarded (part : Task (List Value)) : Task (List Value) := do
  match ← protectValues .traceback part with
  | .ok vs => return vs
  | .error e => raiseHost (← causeOf e)

/-- Raises a failure with a message. -/
def refuse {α : Type} (message : String) : Task α :=
  raiseHost (.runtime (bytes message))

/-! ### Output -/

/-- Writes values to a stream as strings, up to the first that is none. -/
def writeAll (channel : Channel) : (n : Nat) → List Value → Task Unit
  | _, [] => pure ()
  | n, v :: vs => do
    match toBytes? v with
    | some s =>
      ask (.write channel (Text.Utf8.decodeBytes s))
      writeAll channel (n + 1) vs
    | none =>
      let kind := kindOf v
      refuse s!"bad argument #{n} to 'write' (string expected, got {kind})"

/-- The texts of values with tabs between them. -/
def lineOf : (first : Bool) → List Value → Task String
  | _, [] => return "\n"
  | first, v :: vs => do
    let made ← guarded do return [.str (← text none v)]
    let s := match made with
      | [.str s] => Text.Utf8.decodeBytes s
      | _ => ""
    return (if first then "" else "\t") ++ s ++ (← lineOf false vs)

/-! ### The context -/

/-- The context. -/
def contextText : Task (List Char) := do
  return (← ask .context).toList

/-- A text that is given, or else the context. -/
def textOr (context : Task (List Char)) (c : Call) (n : Nat) : Task (List Char) := do
  if c.lacks n then context else return (← looseText c n).toList

/-- The value of a search, or the failure of its pattern. -/
def searched {α : Type} (r : Except Pattern.Refusal α) : Task α :=
  match r with
  | .ok a => pure a
  | .error e => raiseHost (.refused e)

/-- A string value. -/
def ofChars (s : List Char) : Value := .text (String.ofList s)

/-- A record with these fields. -/
def ofRecord (fields : List (String × Value)) : Task Value :=
  newTable (Table.ofFields (fields.map fun f => (.text f.1, f.2)))

/-- A list of records, marked as a list. -/
def ofRecords (records : List (List (String × Value))) : Task Value := do
  let vs ← records.mapM ofRecord
  let mark ← read (·.listMeta)
  newTable { Table.ofList vs with metatable := mark }

/-- Runs a function that reads the context. -/
def search (context : Task (List Char)) (u : Utility) (c : Call) : Task (List Value) := do
  match u with
  | .chunkText =>
    let given ← if c.lacks 1 then pure none else do pure (some (← looseText c 1).toList)
    let size ← integer c 2
    let overlap ← integerOr c 3 0
    let s ← match given with
      | some s => pure s
      | none => context
    return [← newTable (Table.ofList ((Text.chunks s size overlap).map ofChars))]
  | .searchContext =>
    let pattern ← strictText c 1
    let window ← countOr c 2 Search.defaultWindow
    let limit ← countOr c 3 Search.defaultLimit
    let hits ← searched (Search.hits (← context) pattern window limit)
    return [← ofRecords (hits.map fun h =>
      [("match", ofChars h.matched), ("context", ofChars h.context), ("start", .ofNat h.start),
       ("end", .ofNat h.stop)])]
  | .countMatches =>
    let pattern ← strictText c 1
    return [.ofNat (← searched (Search.count (← context) pattern))]
  | .extractJson =>
    match Search.embeddedJson (← textOr context c 1) with
    | some j => return [← change fun m => m.ofJson j]
    | none => return [.nil]
  | .extractSections =>
    let pattern ← strictText c 1
    let sections ← searched (Search.sections (← context) pattern)
    return [← ofRecords (sections.map fun s =>
      [("header", ofChars s.header), ("content", ofChars s.content), ("start", .ofNat s.start)])]
  | .findLine =>
    let pattern ← strictText c 1
    let found ← searched (Search.findLines (← context) pattern)
    return [← ofRecords (found.map fun l =>
      [("line_number", .ofNat l.number), ("line", ofChars l.line)])]
  | .countLines =>
    let pattern ← if c.lacks 1 then pure none else do pure (some (← strictText c 1))
    return [.ofNat (← searched (Search.countLines (← context) pattern))]
  | .getLine =>
    let n ← integer c 1
    return [ofChars (Text.line (← context) n)]
  | .quoteMatch =>
    let pattern ← strictText c 1
    let limit ← countOr c 2 Search.defaultQuoteLength
    return [ofChars (← searched (Search.quote (← context) pattern limit))]

/-! ### Asking the host -/

/-- Where the events of the functions that ask the host come from. -/
def askTarget : String := "rlm_lua::bridge"

/-- Asks the host. -/
def askHost (method : String) (params : Json) : Task Json := do
  match ← ask (.ask method params) with
  | .ok v => return v
  | .error e => raiseHost (.bridge e)

/-- Runs a function that asks the host. -/
def consult (f : Callback) (c : Call) : Task (List Value) := do
  let note (level : Log.Level) (what : String) : Task Unit := ask (.log ⟨level, askTarget, what⟩)
  match f with
  | .llmQuery =>
    let prompt ← looseText c 1
    note .debug "llm_query"
    let reply ← askHost Bridge.promptMethod (Json.ofFields [("prompt", .str prompt)])
    return [.text reply.display]
  | .rlmQuery =>
    let task ← looseText c 1
    let context ← if c.lacks 2 then pure [] else do pure [("context", Json.str (← looseText c 2))]
    note .debug "rlm_query"
    let reply ← askHost Bridge.taskMethod (Json.ofFields (("task", .str task) :: context))
    return [.text reply.display]
  | .batchLlmQuery =>
    let prompts ← looseTexts c 1
    note .debug "batch_llm_query"
    let reply ← askHost Bridge.batchMethod
      (Json.ofFields [("prompts", .arr (prompts.map .str))])
    let fits := match reply with
      | .arr items => items.length == prompts.length
      | _ => false
    if !fits then note .warn "batch reply has unexpected shape, replicating raw response"
    return [← newTable (Table.ofList ((Bridge.answers reply prompts.length).map .text))]

/-! ### All functions -/

/-- Where the events come from that evaluated code logs. -/
def logTarget : String := "rlm_lua::bindings"

/-- Runs a function. -/
def run (f : HostFn) (c : Call) : Task (List Value) := do
  match f with
  | .print =>
    ask (.write .out (← lineOf true c.args))
    return []
  | .log =>
    let level ← looseText c 1
    let message ← looseText c 2
    ask (.log ⟨.ofName level, logTarget, "[lua] " ++ message⟩)
    return []
  | .ioWrite handle =>
    writeAll .out 1 c.args
    return [.table handle]
  | .ioOutput handle =>
    if !c.lacks 1 then refuse "io.output cannot be redirected in the sandbox"
    return [.table handle]
  | .ioLines real =>
    if c.lacks 1 then
      refuse "io.lines() without a file name reads stdin, which is unavailable in the sandbox"
    guarded (call (.func real) c.args c.inner)
  | .ioClose real =>
    match c.arg 1 with
    | .file _ => guarded (call (.func real) c.args c.inner)
    | _ => return [.bool true]
  | .unavailable name =>
    refuse s!"{name} is unavailable in the sandbox: stdin carries the protocol"
  | .streamWrite channel =>
    let this ← table c 1
    writeAll channel 1 (c.args.drop 1)
    return [this]
  | .streamFlush => return [← table c 1]
  | .streamClose =>
    let _ ← table c 1
    return [.bool true]
  | .streamSetvbuf => return [.bool true]
  | .utility u => search contextText u c
  | .callback f => consult f c
  | .failureText =>
    match c.arg 1 with
    | .failure id => return [.text (← read fun m => m.failures.getD id (.runtime ByteArray.empty)).display]
    | _ => raiseHost (.conversion "userdata is not expected type")

end HostFn

end LuaSession.Lua
