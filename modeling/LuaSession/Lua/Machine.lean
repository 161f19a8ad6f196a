import LuaSession.Lua.Eval
import LuaSession.Lua.Library

/-!
# The machine

The machine runs steps. Its stack holds what waits for the current step: the functions that were
called, the loops and the protected parts. Each coroutine has a stack of its own; a coroutine that
resumed another waits for it. `Machine.advance` does one step, or says that the step asks the outside
or that all is done.
-/

namespace LuaSession.Lua

/-- How far calls are nested: all calls, those that need native stack, and those during which a
coroutine may not be left. -/
structure Depth where
  calls : Nat := 0
  native : Nat := 0
  fixed : Nat := 0
  deriving DecidableEq, Repr, Inhabited

/-- What a function goes back to: the slots and the activation of its caller. -/
structure Saved where
  slots : Array Slot
  act : Activation
  depth : Depth

/-- Something that waits for the current step. -/
inductive Frame
  | call (saved : Saved) (site : Site) (k : List Value → Mem → Step)
  | loop (body : List Value → Mem → Step) (k : Flow → Mem → Step)
  | protect (depth : Depth) (how : Catch) (k : Except Value Flow → Mem → Step)

/-- What a coroutine is while it does not run. -/
structure Stack where
  frames : List Frame := []
  saved : Saved

/-- A coroutine. One that failed keeps its stack until it is closed. -/
inductive Thread
  | fresh (f : Value)
  | suspended (stack : Stack) (k : List Value → Mem → Step)
  | active
  | finished
  | failed (stack : Stack) (e : Value)

/-- A coroutine that waits for another one, which it resumed or closes. -/
structure Waiting where
  thread : Nat
  stack : Stack
  base : Nat
  closing : Bool
  k : Except Value (List Value) → Mem → Step

/-- The machine: the coroutines, the one that runs, its stack and depth, the native depth at which
it was resumed, and those that wait for it, the last one first. -/
structure Machine where
  threads : Array Thread := #[.active]
  current : Nat := 0
  frames : List Frame := []
  depth : Depth := {}
  base : Nat := 0
  waiting : List Waiting := []

/-- What follows a step: another one, a request to the outside, or the end. -/
inductive Next
  | step (s : Step) (x : Machine)
  | ask (r : Request) (k : r.Reply → Mem → Step) (m : Mem) (x : Machine)
  | done (result : Except Value (List Value)) (m : Mem) (x : Machine)

namespace Machine

/-- How deep calls may be nested. -/
def callLimit : Nat := 190000

/-- How deep calls that need native stack may be nested. -/
def nativeLimit : Nat := 200

/-- How far beyond the limits the handling of an error may go. -/
def handlingRoom : Nat := 20

/-- The message of an error that could not be handled. -/
def unhandled : Value := .text "error in error handling"

/-- What the running function goes back to if it calls another. -/
def saved (x : Machine) (m : Mem) : Saved := ⟨m.slots, m.act, x.depth⟩

/-- The depth within a call. -/
def deeper (d : Depth) (site : Site) : Depth where
  calls := d.calls + 1
  native := if site.deep then d.native + 1 else d.native
  fixed := if site.fixed then d.fixed + 1 else d.fixed

/-- Goes back to a caller. -/
def restore (x : Machine) (s : Saved) (m : Mem) : Machine × Mem :=
  ({ x with depth := s.depth }, { m with slots := s.slots, act := s.act })

/-! ### Calls -/

/-- Raises a message about a place. -/
def complain (spot : Option Spot) (message : ByteArray) (m : Mem) : Step :=
  .raise (.str (Task.placedMessage spot message)) m

/-- Begins to run a function: its parameters get the arguments. -/
def enter (f : Proto) (captures : Array Nat) (args : List Value) (m : Mem) : Step :=
  let act : Activation :=
    { shared := f.shared, captures := captures
      more := if f.takesMore then args.drop f.params.length else [], chunk := f.chunk }
  let m := { m with slots := Array.replicate f.slots (.value .nil), act := act }
  (Task.declareSlots f.params args) (fun _ => f.run (fun flow => .leave flow)) m

/-- Begins to run a built-in function. -/
def enterBuiltin (b : Builtin) (args : List Value) (site : Site) (m : Mem) : Step :=
  b.run ⟨args, site, b.path⟩ (fun vs => .leave (.give vs)) { m with slots := #[], act := {} }

/-- What a call comes to: a function with arguments. A value that is no function is called by its
metamethod, which gets the value in front of the arguments; `fuel` bounds how often. -/
def resolve (m : Mem) : (fuel : Nat) → (f : Value) → (args : List Value) →
    Except Value (Func × List Value)
  | _, .func id, args =>
    match m.funcs[id]? with
    | some f => .ok (f, args)
    | none => .error .nil
  | 0, v, _ => .error v
  | fuel + 1, v, args =>
    match m.metamethod v "__call" with
    | .nil => .error v
    | tm => resolve m fuel tm (v :: args)

/-- Whether a new depth is beyond a limit: not at all, just now, or so far that even the handling of
the error has to end. -/
def beyond (limit n : Nat) : Option Bool :=
  if n == limit then some false
  else if limit + handlingRoom ≤ n then some true
  else none

/-- Calls a function. -/
def call (x : Machine) (f : Value) (args : List Value) (site : Site)
    (k : List Value → Mem → Step) (m : Mem) : Next :=
  match resolve m 100 f args with
  | .error v =>
    .step (complain site.spot (joinBytes
      [bytes "attempt to call a ", m.typeName v, bytes " value", Task.labelText site.label]) m) x
  | .ok (g, args) =>
    let depth := deeper x.depth site
    let inside : Machine :=
      { x with frames := .call (x.saved m) site k :: x.frames, depth := depth }
    match (if site.deep then beyond nativeLimit (x.base + depth.native) else none),
      beyond callLimit depth.calls with
    | some true, _ | _, some true => .step (.rethrow unhandled m) x
    | some false, _ =>
      .step (complain site.spot (bytes "C stack overflow") m) { x with depth := depth }
    | _, some false =>
      .step (complain site.spot (bytes "stack overflow") m) { x with depth := depth }
    | none, none =>
      match g with
      | .closure p captures => .step (enter p captures args m) inside
      | .builtin b => .step (enterBuiltin b args site m) inside

/-- Calls a function in place of the one that runs. -/
def callInstead (x : Machine) (s : Saved) (site : Site) (k : List Value → Mem → Step)
    (rest : List Frame) (f : Value) (args : List Value) (at_ : Site) (m : Mem) : Next :=
  match resolve m 100 f args with
  | .ok (.closure p captures, args) =>
    .step (enter p captures args m)
      { x with frames := .call s { site with label := none } k :: rest }
  | _ => x.call f args at_ (fun vs => .leave (.give vs)) m

/-! ### Coroutines -/

/-- The state of a coroutine. -/
def statusOf (x : Machine) (id : Nat) : ThreadStatus :=
  if id == x.current then .running
  else
    match x.threads[id]? with
    | some (.fresh _) | some (.suspended ..) => .suspended
    | some .active => .normal
    | _ => .dead

/-- Ends the running coroutine: the one that waits for it goes on. -/
def finish (x : Machine) (result : Except Value (List Value)) (m : Mem) : Next :=
  match x.waiting with
  | [] => .done result m x
  | w :: ws =>
    let state : Thread :=
      match result with
      | .error e => if w.closing then .finished else .failed ⟨x.frames, x.saved m⟩ e
      | .ok _ => .finished
    let y : Machine :=
      { x with
        threads := x.threads.setIfInBounds x.current state
        current := w.thread, frames := w.stack.frames, base := w.base, waiting := ws }
    let (y, m) := y.restore w.stack.saved m
    .step (w.k result m) y

/-- Hands over to another coroutine. -/
def handOver (x : Machine) (id : Nat) (stack : Stack) (closing : Bool)
    (k : Except Value (List Value) → Mem → Step) (m : Mem) : Machine × Mem :=
  let w : Waiting := ⟨x.current, ⟨x.frames, x.saved m⟩, x.base, closing, k⟩
  let y : Machine :=
    { x with
      threads := x.threads.setIfInBounds id .active
      current := id, frames := stack.frames
      base := x.base + x.depth.native + 1, waiting := w :: x.waiting }
  y.restore stack.saved m

/-- The stack of a coroutine that has not begun. -/
def freshStack : Stack := ⟨[], ⟨#[], {}, {}⟩⟩

/-- Resumes a coroutine. -/
def resume (x : Machine) (id : Nat) (args : List Value)
    (k : Except Value (List Value) → Mem → Step) (m : Mem) : Next :=
  let refuse (message : String) : Next := .step (k (.error (.text message)) m) x
  if nativeLimit ≤ x.base + x.depth.native then refuse "C stack overflow"
  else
    match x.threads[id]? with
    | some (.fresh f) =>
      let (y, m) := x.handOver id freshStack false k m
      .step (.call f args {} (fun vs => .leave (.give vs)) m) y
    | some (.suspended stack go) =>
      let (y, m) := x.handOver id stack false k m
      .step (go args m) y
    | some .active => refuse "cannot resume non-suspended coroutine"
    | _ => refuse "cannot resume dead coroutine"

/-- Leaves the running coroutine until it is resumed. -/
def yield (x : Machine) (vs : List Value) (k : List Value → Mem → Step) (m : Mem) : Next :=
  match x.waiting with
  | [] => .step (complain none (bytes "attempt to yield from outside a coroutine") m) x
  | w :: ws =>
    if x.depth.fixed != 0 || w.closing then
      .step (complain none (bytes "attempt to yield across a C-call boundary") m) x
    else
      let y : Machine :=
        { x with
          threads := x.threads.setIfInBounds x.current (.suspended ⟨x.frames, x.saved m⟩ k)
          current := w.thread, frames := w.stack.frames, base := w.base, waiting := ws }
      let (y, m) := y.restore w.stack.saved m
      .step (w.k (.ok vs) m) y

/-- Whether a frame has something to do when a coroutine is closed. -/
def Frame.tidies : Frame → Bool
  | .call .. | .protect _ .tidy _ => true
  | _ => false

/-- Closes a coroutine: what is to be closed in it is closed. -/
def close (x : Machine) (id : Nat) (k : Except Value Unit → Mem → Step) (m : Mem) : Next :=
  let unwind (stack : Stack) (e : Value) : Next :=
    let stack := { stack with frames := stack.frames.filter Frame.tidies }
    let after (r : Except Value (List Value)) (m : Mem) : Step :=
      match r with
      | .error .nil | .ok _ => k (.ok ()) m
      | .error e => k (.error e) m
    let (y, m) := x.handOver id stack true after m
    .step (.rethrow e m) y
  match x.threads[id]? with
  | some (.suspended stack _) => unwind stack .nil
  | some (.failed stack e) => unwind stack e
  | _ => .step (k (.ok ()) m) { x with threads := x.threads.setIfInBounds id .finished }

/-! ### Errors -/

/-- What the nearest protected part does that stops errors. -/
def catcher : List Frame → Option Catch
  | [] => none
  | .protect _ .tidy _ :: rest => catcher rest
  | .protect _ how _ :: _ => some how
  | _ :: rest => catcher rest

/-- The part of a byte string before its first zero byte. -/
def upToZero (s : ByteArray) : ByteArray :=
  ofByteList (s.data.toList.takeWhile (· != 0))

/-- What an error becomes where it leaves all programs: a failure stays, and anything else is a text
with the place for a traceback. -/
def withTraceback (e : Value) : Task Value :=
  match e with
  | .failure id => pure (.failure id)
  | _ => do
    let s ← Task.text none e
    return .str (upToZero s ++ bytes ("\n" ++ HostError.tracebackHead))

/-- Raises an error: the part that will catch it may look at it first. -/
def raise (x : Machine) (e : Value) (m : Mem) : Next :=
  match catcher x.frames with
  | none =>
    match x.waiting with
    | w :: _ => if w.closing then .step (.rethrow e m) x else x.finish (.error e) m
    | [] => .step (.rethrow e m) x
  | some .plain | some .tidy => .step (.rethrow e m) x
  | some (.handler f) =>
    .step (.call f [e] { deep := true, fixed := true }
      (fun vs => .rethrow (Task.firstOf vs)) m) x
  | some .traceback => .step (withTraceback e (fun e => .rethrow e) m) x

/-- Takes an error to the nearest protected part. -/
def rethrow (x : Machine) (e : Value) (m : Mem) : Next :=
  match x.frames with
  | [] => x.finish (.error e) m
  | .call s _ _ :: rest =>
    let (x, m) := x.restore s m
    .step (.rethrow e m) { x with frames := rest }
  | .loop .. :: rest => .step (.rethrow e m) { x with frames := rest }
  | .protect depth _ k :: rest =>
    .step (k (.error e) m) { x with frames := rest, depth := depth }

/-! ### Steps -/

/-- Leaves the innermost frame. -/
def leave (x : Machine) (flow : Flow) (m : Mem) : Next :=
  match x.frames, flow with
  | [], .give vs => x.finish (.ok vs) m
  | [], .giveCall f args site => x.call f args site (fun vs => .leave (.give vs)) m
  | [], _ => x.finish (.ok []) m
  | .call s site k :: rest, .giveCall f args at_ => x.callInstead s site k rest f args at_ m
  | .call s _ k :: rest, flow =>
    let (x, m) := x.restore s m
    let vs := match flow with
      | .give vs => vs
      | _ => []
    .step (k vs m) { x with frames := rest }
  | .loop _ k :: rest, flow => .step (k flow m) { x with frames := rest }
  | .protect depth _ k :: rest, flow =>
    .step (k (.ok flow) m) { x with frames := rest, depth := depth }

/-- The place from which the function was called that is `level` functions out from the running
one. -/
def spotAt : List Frame → (level : Nat) → Option Spot
  | .call _ site _ :: rest, n => if n ≤ 1 then site.spot else spotAt rest (n - 1)
  | _ :: rest, n => spotAt rest n
  | [], _ => none

/-- Answers a question about the machine. -/
def inquire (x : Machine) : (q : Inquiry) → q.Reply × Machine
  | .spot level => (spotAt x.frames level, x)
  | .spawn f => (x.threads.size, { x with threads := x.threads.push (.fresh f) })
  | .status id => (x.statusOf id, x)
  | .running => ((x.current, x.current == 0), x)
  | .canYield => (!x.waiting.isEmpty && x.depth.fixed == 0, x)

/-- Does a step. -/
def advance (x : Machine) : Step → Next
  | .leave flow m => x.leave flow m
  | .raise e m => x.raise e m
  | .rethrow e m => x.rethrow e m
  | .call f args site k m => x.call f args site k m
  | .loop start body k m => .step (body start m) { x with frames := .loop body k :: x.frames }
  | .again state m =>
    match x.frames with
    | .loop body _ :: _ => .step (body state m) x
    | _ => .step (.leave .normal m) x
  | .protect how body k m =>
    .step (body m) { x with frames := .protect x.depth how k :: x.frames }
  | .ask r k m => .ask r k m x
  | .inquire q k m =>
    let (r, x) := x.inquire q
    .step (k r m) x
  | .resume thread args k m => x.resume thread args k m
  | .yield vs k m => x.yield vs k m
  | .close thread k m => x.close thread k m

end Machine

end LuaSession.Lua
