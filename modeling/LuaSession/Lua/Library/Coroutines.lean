import LuaSession.Lua.Arguments

/-!
# The coroutine library
-/

namespace LuaSession.Lua

open LuaSession.Lua.Task

namespace CoroutineFn

/-- The functions under the names that programs find. -/
def all : List (String × CoroutineFn) :=
  [("close", .close), ("create", .create), ("isyieldable", .isyieldable), ("resume", .resume),
   ("running", .running), ("status", .status), ("wrap", .wrap), ("yield", .yield)]

/-- The word for a status. -/
def word : ThreadStatus → String
  | .suspended => "suspended"
  | .running => "running"
  | .normal => "normal"
  | .dead => "dead"

/-- A coroutine. -/
def thread (c : Call) (n : Nat) : Task Nat :=
  match c.arg n with
  | .thread id => pure id
  | _ => c.failType n "coroutine"

/-- Resumes a coroutine that is wrapped in a function. One that fails is closed; a string gets the
place of the call in front. -/
def goOn (c : Call) (id : Nat) : Task (List Value) := do
  match ← Task.resume id c.args with
  | .ok vs => return vs
  | .error e =>
    let e ← match ← inquire (.status id) with
      | .dead =>
        match ← Task.close id with
        | .ok () => pure e
        | .error e => pure e
      | _ => pure e
    match e with
    | .str s => failAt c.site.spot s
    | _ => raise e

/-- Runs a function. -/
def run (f : CoroutineFn) (c : Call) : Task (List Value) := do
  match f with
  | .close =>
    let id ← thread c 1
    match ← inquire (.status id) with
    | .suspended | .dead =>
      match ← Task.close id with
      | .ok () => return [.bool true]
      | .error e => return [.bool false, e]
    | s =>
      let w := word s
      c.fail s!"cannot close a {w} coroutine"
  | .create =>
    let f ← c.function 1
    return [.thread (← inquire (.spawn f))]
  | .wrap =>
    let f ← c.function 1
    let id ← inquire (.spawn f)
    return [← newBuiltin (.coroutine (.resumeWrapped id))]
  | .resumeWrapped id => goOn c id
  | .isyieldable => return [.bool (← inquire .canYield)]
  | .resume =>
    let id ← thread c 1
    match ← Task.resume id (c.args.drop 1) with
    | .ok vs => return .bool true :: vs
    | .error e => return [.bool false, e]
  | .running =>
    let (id, isMain) ← inquire .running
    return [.thread id, .bool isMain]
  | .status =>
    let id ← thread c 1
    return [.text (word (← inquire (.status id)))]
  | .yield => Task.yield c.args

end CoroutineFn

end LuaSession.Lua
