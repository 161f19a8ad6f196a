import LuaSession.Lua.Run
import LuaSession.Text.Blank
import LuaSession.Text.Quoted

/-!
# Sessions

A session keeps what evaluated code leaves behind. Code sees three layers: the bindings, which it may
change and which outlast each evaluation; behind them the functions of the host that write and log;
behind those the global variables of the language.

* `Session.start_text`: a new session has no context.
-/

namespace LuaSession

open LuaSession.Lua

/-- A session: the memory and the coroutines, the table of the bindings, the context and the name it
is bound to, and where output goes. -/
structure Session where
  mem : Mem
  threads : Array Thread := #[.active]
  bindings : Nat
  contextName : String
  text : String := ""
  sink : Sink := {}

/-- Why there is no session. -/
inductive SessionError
  | invalidName (name : String)
  deriving DecidableEq, Repr

/-- The wording of an error. -/
def SessionError.message : SessionError → String
  | .invalidName name => "invalid binding name: " ++ Text.quotedText name

namespace Session

/-! ### The functions of the host -/

/-- Adds a table of functions of the host. -/
def addHost (m : Mem) (fns : List (String × HostFn)) (more : List (String × Value)) : Nat × Mem :=
  let (fs, m) := m.addNamed Builtin.host fns
  m.newTable (Table.ofFields (fs ++ more.map fun f => (.text f.1, f.2)))

/-- Adds the table of a stream for output. -/
def addStream (m : Mem) (channel : Channel) : Nat × Mem :=
  addHost m
    [("write", .streamWrite channel), ("flush", .streamFlush), ("close", .streamClose),
     ("setvbuf", .streamSetvbuf)] []

/-- Adds a table whose missing fields are those of another. -/
def behind (m : Mem) (id : Nat) (other : Value) : Mem :=
  let (mark, m) := m.addRecord [("__index", other)]
  m.modifyTable id fun t => { t with metatable := some mark }

/-- The place of a function of the file library. -/
def fileFunction (m : Mem) (name : String) : Nat :=
  match m.rawGet m.globals (.text "io") with
  | .table io =>
    match m.rawGet io (.text name) with
    | .func id => id
    | _ => 0
  | _ => 0

/-- Adds the layer behind the bindings. -/
def addLayer (m : Mem) : Nat × Mem :=
  let (out, m) := addStream m .out
  let (err, m) := addStream m .err
  let (input, m) := addHost m
    [("read", .unavailable "io.stdin:read"), ("lines", .unavailable "io.stdin:lines"),
     ("close", .streamClose)] []
  let (io, m) := addHost m
    [("write", .ioWrite out), ("output", .ioOutput out), ("read", .unavailable "io.read"),
     ("input", .unavailable "io.input"), ("lines", .ioLines (fileFunction m "lines")),
     ("close", .ioClose (fileFunction m "close"))]
    [("stdout", .table out), ("stderr", .table err), ("stdin", .table input)]
  let m := behind m io (m.rawGet m.globals (.text "io"))
  let (layer, m) := addHost m [("print", .print), ("log", .log)] [("io", .table io)]
  (layer, behind m layer (.table m.globals))

/-! ### Bindings -/

/-- Binds a value. -/
def bind (s : Session) (key value : Value) : Session :=
  { s with mem := s.mem.rawSet s.bindings key value }

/-- Binds new functions of the host under their names. -/
def bindHost (s : Session) : List (String × HostFn) → Session
  | [] => s
  | (name, f) :: rest =>
    let (v, m) := s.mem.addBuiltin (.host f)
    bindHost ({ s with mem := m }.bind (.text name) v) rest

/-- Binds the functions that ask the host. -/
def bindCallbacks (s : Session) : Session :=
  s.bindHost (Callback.all.map fun f => (f.name, .callback f))

/-- Binds the functions that read the context. -/
def bindUtilities (s : Session) : Session :=
  s.bindHost (Utility.all.map fun f => (f.name, .utility f))

/-- A session in which nothing was evaluated yet. -/
def start (contextName : String) : Except SessionError Session :=
  if Text.isBlankText contextName.toList then .error (.invalidName contextName)
  else
    let (layer, m) := addLayer Mem.start
    let (bindings, m) := m.addRecord []
    .ok (bindCallbacks { mem := behind m bindings (.table layer), bindings, contextName })

/-- Gives the session a context and binds it; the functions of the host are bound anew. -/
def setContext (s : Session) (text : String) : Session :=
  (({ s with text := text }.bind (.text s.contextName) (.text text)).bindCallbacks).bindUtilities

/-- The bindings. -/
def entries (s : Session) : List (Value × Value) :=
  (s.mem.table s.bindings).entries

/-- Unbinds everything and leaves an empty context. -/
def clear (s : Session) : Session :=
  { s.entries.foldl (fun s e => s.bind e.1 .nil) s with text := "" }

/-- The session in short. -/
def summary (s : Session) : String :=
  let size := s.text.utf8ByteSize
  let name := Text.quotedText s.contextName
  s!"ExecutionContext \x7b context_len: {size}, options: ContextOptions \x7b context_variable: {name} \x7d, .. \x7d"

/-! ### Laws -/

theorem bindHost_text (s : Session) (fns : List (String × HostFn)) :
    (s.bindHost fns).text = s.text := by
  induction fns generalizing s with
  | nil => rfl
  | cons f rest ih => simp only [bindHost, ih]; rfl

/-- The context is the one that was given last. -/
theorem setContext_text (s : Session) (text : String) : (s.setContext text).text = text := by
  simp only [setContext, bindUtilities, bindCallbacks, bindHost_text]; rfl

theorem clear_text (s : Session) : s.clear.text = "" := rfl

/-- A new session has no context. -/
theorem start_text {name : String} {s : Session} (h : start name = .ok s) : s.text = "" := by
  unfold start at h
  split at h
  · cases h
  · cases h
    simp only [bindCallbacks, bindHost_text]

end Session

end LuaSession
