import LuaSession.Lua.Library

/-!
# Requests of the built-in functions

Which requests each built-in function can make. Most of them can make none. Functions of the host write
where output is captured; the functions that programs find in the global variables write past the
capture, to the streams of the process.
-/

namespace LuaSession.Lua

/-- What a basic function may ask. -/
def BasicFn.MayAsk : BasicFn → Request → Prop
  | .print, .spill channel _ => channel = .out
  | .warn, .spill channel _ => channel = .err
  | _, _ => False

/-- What a function on files may ask. -/
def IoFn.MayAsk : IoFn → Request → Prop
  | .write, .spill channel _ => channel = .out
  | .fileWrite, .spill .. => True
  | _, _ => False

/-- What a function on numbers may ask. -/
def MathFn.MayAsk : MathFn → Request → Prop
  | .randomseed, .now => True
  | _, _ => False

/-- What a function on the system may ask. -/
def OsFn.MayAsk : OsFn → Request → Prop
  | .clock, .clock | .date, .now | .time, .now | .getenv, .variable_ _ | .exit, .exit _ => True
  | _, _ => False

/-- What a function that asks the host sends: texts under fixed names. -/
def Callback.MaySend : Callback → (method : String) → (params : Json) → Prop
  | .llmQuery, method, params =>
    method = Bridge.promptMethod ∧ ∃ prompt, params = Json.ofFields [("prompt", .str prompt)]
  | .rlmQuery, method, params =>
    method = Bridge.taskMethod ∧
      ((∃ task, params = Json.ofFields [("task", .str task)]) ∨
        ∃ task context, params = Json.ofFields [("task", .str task), ("context", .str context)])
  | .batchLlmQuery, method, params =>
    method = Bridge.batchMethod ∧
      ∃ prompts : List String, params = Json.ofFields [("prompts", .arr (prompts.map .str))]

/-- What a function of the host may ask. -/
def HostFn.MayAsk : HostFn → Request → Prop
  | .print, .write channel _ | .ioWrite _, .write channel _ => channel = .out
  | .streamWrite own, .write channel _ => channel = own
  | .log, .log _ | .utility _, .context | .callback _, .log _ => True
  | .callback f, .ask method params => f.MaySend method params
  | _, _ => False

/-- What a built-in function may ask. -/
def Builtin.MayAsk : Builtin → Request → Prop
  | .basic f => f.MayAsk
  | .io f => f.MayAsk
  | .math f => f.MayAsk
  | .os f => f.MayAsk
  | .host f => f.MayAsk
  | .string _ | .table _ | .utf8 _ | .coroutine _ | .matches_ .. => fun _ => False

end LuaSession.Lua
