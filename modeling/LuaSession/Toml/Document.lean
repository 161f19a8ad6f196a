import LuaSession.Number.Digits

/-!
# Documents

A document is a table of keys and nodes. Headers, dotted keys and inline tables all add to tables,
under rules that keep every table defined once: a table that only stood on the way to another may
still be given a header of its own, and one that was made by dotted keys is added to by dotted keys
only.

* `Table.set_same`: a key that was set is found with its node.
-/

namespace LuaSession.Toml

/-- A stretch of a text, in bytes. -/
structure Span where
  start : Nat
  stop : Nat
  deriving DecidableEq, Repr

/-- A key and where it stands. -/
structure Key where
  name : String
  span : Span
  deriving DecidableEq, Repr

/-- How a table came to be: only on the way to others, by dotted keys, in braces. -/
structure Form where
  implicit : Bool := false
  dotted : Bool := false
  inline : Bool := false
  deriving DecidableEq, Repr

/-- What stands in a document. Dates and times are kept as what they are only. -/
inductive Node
  | string (s : String) (span : Span)
  | integer (n : Int) (span : Span)
  | float (x : Float) (span : Span)
  | boolean (b : Bool) (span : Span)
  | datetime (span : Span)
  | array (items : List Node) (span : Span)
  | table (fields : List (Key × Node)) (form : Form) (span : Option Span)
  | tables (items : List Node) (span : Option Span)

namespace Node

/-- Where a node stands; a table without a header of its own stands nowhere. -/
def span? : Node → Option Span
  | string _ s | integer _ s | float _ s | boolean _ s | datetime s | array _ s => some s
  | table _ _ s | tables _ s => s

/-- What a value is called. -/
def kind : Node → String
  | string .. => "string"
  | integer .. => "integer"
  | float .. => "float"
  | boolean .. => "boolean"
  | datetime .. => "datetime"
  | array .. => "array"
  | table .. => "inline table"
  | tables .. => "array of tables"

end Node

/-- A table: its fields in the order in which they were added. -/
structure Table where
  fields : List (Key × Node) := []
  form : Form := {}
  span : Option Span := none

namespace Table

/-- The node of a table. -/
def node (t : Table) : Node := .table t.fields t.form t.span

/-- The node under a name. -/
def get? (t : Table) (name : String) : Option Node :=
  (t.fields.find? fun f => f.1.name == name).map (·.2)

/-- Puts a node under a key; a new key comes last. -/
def set (t : Table) (k : Key) (n : Node) : Table :=
  { t with fields := replace t.fields }
where
  /-- Puts the node in its place. -/
  replace : List (Key × Node) → List (Key × Node)
    | [] => [(k, n)]
    | f :: r => if f.1.name == k.name then (f.1, n) :: r else f :: replace r

/-- Takes a name out. -/
def erase (t : Table) (name : String) : Table :=
  { t with fields := t.fields.filter fun f => f.1.name != name }

theorem set_same (t : Table) (k : Key) (n : Node) : (t.set k n).get? k.name = some n := by
  unfold set get?
  simp only
  induction t.fields with
  | nil => simp [set.replace]
  | cons f r ih =>
    by_cases h : f.1.name = k.name
    · simp [set.replace, h]
    · simpa [set.replace, h] using ih

end Table

/-- Why something cannot be added to a document. -/
inductive Clash
  | duplicate (key : String) (table : Option (List String))
  | wrongKind (path : List String) (kind : String)
  deriving DecidableEq, Repr

/-- The wording of a clash. -/
def Clash.message : Clash → String
  | .duplicate key none => s!"duplicate key `{key}`"
  | .duplicate key (some []) => s!"duplicate key `{key}` in document root"
  | .duplicate key (some path) => s!"duplicate key `{key}` in table `{dotted path}`"
  | .wrongKind path kind =>
    s!"dotted key `{dotted path}` attempted to extend non-table type ({kind})"
where
  /-- Names with points between them. -/
  dotted (path : List String) : String := ".".intercalate path

/-- How the tables on a path are named: by a header, by dotted keys, by dotted keys in braces. -/
inductive Way
  | header | dotted | inline
  deriving DecidableEq, Repr

/-- The tables that are made on a path. -/
def Way.form : Way → Form
  | .header => { implicit := true }
  | .dotted => { implicit := true, dotted := true }
  | .inline => { implicit := true, dotted := true, inline := true }

/-- Does something to the table at the end of a path and makes the tables that are missing on it.
Of an array of tables it is the last that a path goes through. `done` is the path so far. -/
def Table.descend {α : Type} (way : Way) (act : Table → Except Clash (Table × α)) :
    (done : List String) → (path : List Key) → Table → Except Clash (Table × α)
  | _, [], t => act t
  | done, k :: path, t =>
    let done := done ++ [k.name]
    match t.get? k.name with
    | none => do
      let (child, a) ← descend way act done path { form := way.form }
      return (t.set k child.node, a)
    | some (.table fields form span) =>
      if form.inline && way != .inline then throw (.wrongKind done "inline table")
      else if way != .header && !form.implicit then throw (.duplicate k.name none)
      else do
        let (child, a) ← descend way act done path ⟨fields, form, span⟩
        return (t.set k child.node, a)
    | some (.tables items span) =>
      match items.reverse with
      | .table fields form inner :: others => do
        let (child, a) ← descend way act done path ⟨fields, form, inner⟩
        return (t.set k (.tables (others.reverse ++ [child.node]) span), a)
      | _ => throw (.wrongKind done "array of tables")
    | some other => throw (.wrongKind done other.kind)

/-- Adds a value under a path of keys. A table is added to by dotted keys or by plain keys, and not
by both. `place` is what the table is called where a key is found to be taken. -/
def Table.insert (way : Way) (place : Option (List String)) (path : List Key) (k : Key) (n : Node)
    (t : Table) : Except Clash Table := do
  let add (t : Table) : Except Clash (Table × Unit) :=
    if t.form.dotted == path.isEmpty then throw (.duplicate k.name none)
    else if (t.get? k.name).isSome then throw (.duplicate k.name place)
    else return (t.set k n, ())
  return (← t.descend way add [] path).1

/-- The table in braces of some fields, each with the path before its key. -/
def Table.ofInline (fields : List (List Key × Key × Node)) : Except Clash Table :=
  fields.foldlM (fun t (path, k, n) => t.insert .inline none path k n) { form := { inline := true } }

/-! ### Headers -/

/-- A document that is being read: the tables that are complete, and the one that is being added to
with its path and whether it is an item of an array of tables. -/
structure Draft where
  root : Table := {}
  current : Table := { span := some ⟨0, 0⟩ }
  path : List Key := []
  isItem : Bool := false

/-- The characters of a key that needs no quotes. -/
def isBare (c : Char) : Bool :=
  c.isAlphanum || c == '-' || c == '_'

/-- The text of a character between double quotes. -/
def escaped (c : Char) : String :=
  match c with
  | '\x08' => "\\b"
  | '\t' => "\\t"
  | '\n' => "\\n"
  | '\x0c' => "\\f"
  | '\r' => "\\r"
  | '"' => "\\\""
  | '\\' => "\\\\"
  | c =>
    if c.toNat < 0x20 || c == '\x7f' then
      "\\u" ++ (String.ofList (Number.hexChars 4 c.toNat)).toUpper
    else c.toString

/-- A key as it is written: without quotes if it can be, between double quotes if nothing in it has
to be escaped there, else between single quotes if it can be. -/
def writtenKey (name : String) : String :=
  let cs := name.toList
  let isControl (c : Char) : Bool := (c.toNat < 0x20 && c != '\t') || c == '\x7f'
  if !cs.isEmpty && cs.all isBare then name
  else if cs.any isControl || cs.contains '\'' && (cs.contains '"' || cs.contains '\\')
      || !(cs.contains '"' || cs.contains '\\') then
    "\"" ++ String.join (cs.map escaped) ++ "\""
  else "'" ++ name ++ "'"

namespace Draft

/-- A key under which something else is already there. -/
def taken (parents : List Key) (k : Key) : Clash :=
  .duplicate (writtenKey k.name) (some (parents.map (·.name)))

/-- An array of tables with one more, which stands from the first to the last. -/
def addItem (items : List Node) (span : Option Span) (t : Table) : Node :=
  let whole : Option Span := do
    let first ← (items.head?.bind Node.span?).or t.span
    let last ← t.span
    return ⟨first.start, last.stop⟩
  .tables (items ++ [t.node]) (whole.or span)

/-- Adds the current table to the tables that are complete. -/
def complete (d : Draft) : Except Clash Table :=
  match d.path.getLast? with
  | none => .ok d.current
  | some k =>
    let parents := d.path.dropLast
    let add (t : Table) : Except Clash (Table × Unit) :=
      match d.isItem, t.get? k.name with
      | true, none => return (t.set k (addItem [] none d.current), ())
      | true, some (.tables items span) => return (t.set k (addItem items span d.current), ())
      | false, none => return (t.set k d.current.node, ())
      | _, some _ => throw (taken parents k)
    return (← d.root.descend .header add [] parents).1

/-- Begins a table with a header. A table that only stood on the way to others goes on. -/
def header (d : Draft) (path : List Key) (isItem : Bool) (span : Span) : Except Clash Draft := do
  let root ← d.complete
  match path.getLast? with
  | none => return d
  | some k =>
    let parents := path.dropLast
    let begin_ (t : Table) : Except Clash (Table × List (Key × Node)) :=
      match isItem, t.get? k.name with
      | _, none => return (t, [])
      | true, some (.tables ..) => return (t, [])
      | false, some (.table fields form _) =>
        if form.implicit && !form.dotted then return (t.erase k.name, fields)
        else throw (taken parents k)
      | _, some _ => throw (taken parents k)
    let (root, fields) ← root.descend .header begin_ [] parents
    return ⟨root, { fields, span := some span }, path, isItem⟩

/-- Adds a value to the current table, which then stands up to the end of it. -/
def insert (d : Draft) (path : List Key) (k : Key) (n : Node) : Except Clash Draft := do
  let span : Option Span := match d.current.span, n.span? with
    | some there, some added => some ⟨there.start, added.stop⟩
    | there, _ => there
  let table : Table := { d.current with span := span }
  return { d with current := ← table.insert .dotted (some (d.path.map Key.name)) path k n }

end Draft

end LuaSession.Toml
