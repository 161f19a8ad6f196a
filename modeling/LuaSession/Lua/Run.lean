import LuaSession.Capture
import LuaSession.Lua.Machine

/-!
# Runs

A run does the steps of a machine and answers its requests. Captured output goes to a sink, the
context is a text that stays the same during the run, and everything else is asked of the `Outside`.
A run ends with a result, because the program asked for the end of the process, or because it was
given no more steps.
-/

namespace LuaSession.Lua

/-- What a process has besides its lines of protocol: the time in seconds, the processor time, a
stopwatch in milliseconds, its environment and its streams. -/
structure Surroundings (m : Type → Type) where
  now : m Int
  clock : m Float
  stopwatch : m Float
  variable_ : String → m (Option ByteArray)
  spill : Channel → ByteArray → m Unit

/-- A process in which no time passes, which has no environment and whose streams lead nowhere. -/
def Surroundings.still {m : Type → Type} [Monad m] (now : Int) : Surroundings m where
  now := pure now
  clock := pure 0.0
  stopwatch := pure 0.0
  variable_ _ := pure none
  spill _ _ := pure ()

/-- The outside of evaluated code. -/
structure Outside (m : Type → Type) extends Surroundings m where
  ask : Bridge m
  log : Log.Event → m Unit

/-- Why a run ended before its result. -/
inductive Halt
  | exit (code : Int)
  | outOfSteps
  deriving DecidableEq, Repr

/-- What a run leaves: its result, the memory, the coroutines and the sink. -/
structure Ran where
  result : Except Value (List Value)
  mem : Mem
  threads : Array Thread
  sink : Sink

/-- Answers a request: captured output goes to the sink, and the end of the process ends the run. -/
def Request.answer {m : Type → Type} [Monad m] (o : Outside m) (context : String) (sink : Sink) :
    (r : Request) → m (Except Halt (r.Reply × Sink))
  | .write channel text => pure (.ok ((), sink.write channel text))
  | .spill channel content => do return .ok (← o.spill channel content, sink)
  | .ask method params => do return .ok (← o.ask method params, sink)
  | .context => pure (.ok (context, sink))
  | .log e => do return .ok (← o.log e, sink)
  | .now => do return .ok (← o.now, sink)
  | .clock => do return .ok (← o.clock, sink)
  | .variable_ name => do return .ok (← o.variable_ name, sink)
  | .exit code => pure (.error (.exit code))

/-- Goes on with a run for at most `fuel` steps. -/
def runFrom {m : Type → Type} [Monad m] (o : Outside m) (context : String) :
    (fuel : Nat) → Sink → Machine → Step → m (Except Halt Ran)
  | 0, _, _, _ => pure (.error .outOfSteps)
  | fuel + 1, sink, x, s =>
    match x.advance s with
    | .step s x => runFrom o context fuel sink x s
    | .done result mem x => pure (.ok ⟨result, mem, x.threads, sink⟩)
    | .ask r k mem x => do
      match ← r.answer o context sink with
      | .error h => return .error h
      | .ok (reply, sink) => runFrom o context fuel sink x (k reply mem)

/-- The first step of a task that gives values; errors are made into texts that have the place of a
traceback. -/
def Task.first (t : Task (List Value)) (mem : Mem) : Step :=
  let body : Task Flow := do
    match ← protectValues .traceback t with
    | .ok vs => return .give vs
    | .error e => rethrow e
  body (fun flow => .leave flow) mem

/-- Runs a task that gives values. -/
def runTask {m : Type → Type} [Monad m] (o : Outside m) (context : String) (fuel : Nat)
    (sink : Sink) (threads : Array Thread) (t : Task (List Value)) (mem : Mem) :
    m (Except Halt Ran) :=
  runFrom o context fuel sink { threads } (t.first mem)

end LuaSession.Lua
