import LuaSession.Lua.Library.Basics
import LuaSession.Lua.Library.Codepoints
import LuaSession.Lua.Library.Coroutines
import LuaSession.Lua.Library.Files
import LuaSession.Lua.Library.Host
import LuaSession.Lua.Library.Maths
import LuaSession.Lua.Library.Strings
import LuaSession.Lua.Library.System
import LuaSession.Lua.Library.Tables

/-!
# The libraries together

What each built-in function does, and the memory that a program starts with: the global variables,
the libraries and the metatables of strings, files and failures.
-/

namespace LuaSession.Lua

namespace Builtin

/-- Runs a function. -/
def run (b : Builtin) (c : Call) : Task (List Value) :=
  match b with
  | .basic f => f.run c
  | .string f => f.run c
  | .table f => f.run c
  | .math f => f.run c
  | .utf8 f => f.run c
  | .os f => f.run c
  | .io f => f.run c
  | .coroutine f => f.run c
  | .host f => f.run c
  | .matches_ text pattern cell => StringFn.nextMatch c ⟨text, pattern⟩ cell

/-- The name of a function in a list of names, after the name of its library. -/
def nameIn {α : Type} [BEq α] (library : String) (all : List (String × α)) (f : α) : String :=
  match all.find? fun e => e.2 == f with
  | some (name, _) => library ++ name
  | none => "?"

/-- What messages call a function to which the program gave no name. -/
def path : Builtin → String
  | .basic f => nameIn "" BasicFn.all f
  | .string f => nameIn "string." StringFn.all f
  | .table f => nameIn "table." TableFn.all f
  | .math f => nameIn "math." MathFn.all f
  | .utf8 f => nameIn "utf8." Utf8Fn.all f
  | .os f => nameIn "os." OsFn.all f
  | .io f => nameIn "io." IoFn.all f
  | .coroutine f => nameIn "coroutine." CoroutineFn.all f
  | .host _ | .matches_ .. => "?"

end Builtin

namespace Mem

/-- Adds a built-in function. -/
def addBuiltin (m : Mem) (b : Builtin) : Value × Mem :=
  let (id, m) := m.newFunc (.builtin b)
  (.func id, m)

/-- Adds built-in functions under their names. -/
def addNamed {α : Type} (m : Mem) (wrap : α → Builtin) :
    List (String × α) → List (Value × Value) × Mem
  | [] => ([], m)
  | (name, f) :: rest =>
    let (v, m) := m.addBuiltin (wrap f)
    let (fs, m) := m.addNamed wrap rest
    ((.text name, v) :: fs, m)

/-- Adds a table of built-in functions and other fields. -/
def addLibrary {α : Type} (m : Mem) (wrap : α → Builtin) (all : List (String × α))
    (more : List (String × Value)) : Value × Mem :=
  let (fs, m) := m.addNamed wrap all
  let (id, m) := m.newTable (Table.ofFields (fs ++ more.map fun f => (.text f.1, f.2)))
  (.table id, m)

/-- Adds a table. -/
def addRecord (m : Mem) (fields : List (String × Value)) : Nat × Mem :=
  m.newTable (Table.ofFields (fields.map fun f => (.text f.1, f.2)))

/-- Where modules are looked for. -/
def modulePath : String :=
  ";".intercalate
    ["/usr/local/share/lua/5.4/?.lua", "/usr/local/share/lua/5.4/?/init.lua",
     "/usr/local/lib/lua/5.4/?.lua", "/usr/local/lib/lua/5.4/?/init.lua", "./?.lua",
     "./?/init.lua"]

/-- Adds the metatables that values have from the beginning. -/
def addMetatables (m : Mem) (strings : Value) : Mem :=
  let (operators, m) := m.addNamed (fun op => .string (.arith op))
    (StringFn.operators.map fun o => ("__" ++ o.1, o.2))
  let (stringMeta, m) := m.newTable (Table.ofFields ((.text "__index", strings) :: operators))
  let (methods, m) := m.addLibrary Builtin.io IoFn.methods []
  let (fileText, m) := m.addBuiltin (.io .fileText)
  let (fileMeta, m) := m.addRecord
    [("__name", .text IoFn.typeName), ("__index", methods), ("__tostring", fileText)]
  let (failureText, m) := m.addBuiltin (.host .failureText)
  let (failureMeta, m) := m.addRecord
    [("__metatable", .bool false), ("__tostring", failureText)]
  let (listMeta, m) := m.addRecord [("__metatable", .bool false)]
  { m with
    stringMeta := some stringMeta
    fileMeta := some fileMeta
    failureMeta := some failureMeta
    listMeta := some listMeta }

/-- The memory that holds the libraries and nothing else. Its one cell is that of no variable. -/
def start : Mem :=
  let (next, m) :=
    ({ cells := #[.nil], random := Random.seed 0 0 } : Mem).addBuiltin (.basic .next)
  let (_, m) := m.addBuiltin (.basic .ipairsStep)
  let (basics, m) := m.addNamed Builtin.basic (BasicFn.all.filter fun f => f.1 != "next")
  let (strings, m) := m.addLibrary Builtin.string StringFn.all []
  let (tables, m) := m.addLibrary Builtin.table TableFn.all []
  let (maths, m) := m.addLibrary Builtin.math MathFn.all MathFn.constants
  let (codepoints, m) := m.addLibrary Builtin.utf8 Utf8Fn.all
    [("charpattern", .str Utf8Fn.charPattern)]
  let (system, m) := m.addLibrary Builtin.os OsFn.all []
  let (files, m) := m.addLibrary Builtin.io IoFn.all
    [("stdin", .file 0), ("stdout", .file 1), ("stderr", .file 2)]
  let (coroutines, m) := m.addLibrary Builtin.coroutine CoroutineFn.all []
  let (preload, m) := m.addRecord []
  let libraries : List (String × Value) :=
    [("string", strings), ("table", tables), ("math", maths), ("utf8", codepoints),
     ("os", system), ("io", files), ("coroutine", coroutines)]
  let (loaded, m) := m.addRecord libraries
  let (package, m) := m.addRecord
    [("loaded", .table loaded), ("preload", .table preload), ("path", .text modulePath),
     ("cpath", .text ""), ("config", .text "/\n;\n?\n!\n-\n")]
  let (globals, m) := m.newTable (Table.ofFields
    (basics ++ ((("next", next) :: ("_VERSION", .text "Lua 5.4") :: ("package", .table package) ::
      libraries).map fun f => (.text f.1, f.2))))
  let m := m.rawSet globals (.text "_G") (.table globals)
  let m := m.rawSet loaded (.text "_G") (.table globals)
  let m := m.rawSet loaded (.text "package") (.table package)
  { m.addMetatables strings with globals := globals }

end Mem

end LuaSession.Lua
