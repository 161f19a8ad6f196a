import LuaSession.Config.Settings
import LuaSession.Number.Decimal
import LuaSession.Text.Quoted
import LuaSession.Toml.Report

/-!
# Settings in documents

A document gives settings in tables by name, and a table may also be an array of its values in
order. What is not a setting is passed over; a setting of the wrong type is an error, of which the
first in the document is reported.
-/

namespace LuaSession.Config

open LuaSession.Toml

/-- A float as it is told: all its digits without an exponent. -/
def floatText (x : Float) : String :=
  match Number.reading x with
  | .nan => "NaN"
  | .infinite negative => if negative then "-inf" else "inf"
  | .finite negative m =>
    let digits := if m.mantissa == 0 then ['0', '.', '0'] else m.shortest.positional true
    (if negative then "-" else "") ++ String.ofList digits

/-- What a node is told to be where something else was expected. -/
def found : Node → String
  | .string s _ => "string " ++ Text.quotedText s
  | .integer n _ => "integer `" ++ Number.intText n ++ "`"
  | .float x _ => "floating point `" ++ floatText x ++ "`"
  | .boolean b _ => "boolean `" ++ (if b then "true" else "false") ++ "`"
  | .datetime _ | .table .. => "map"
  | .array .. | .tables .. => "sequence"

/-- A node of another type than expected, which stands where the node does, or else its key. -/
def mismatch (place : Span) (n : Node) (expected : String) : ReadError :=
  ⟨n.span?.getD place, "invalid type: " ++ found n ++ ", expected " ++ expected⟩

/-- A reader of a setting: it changes something by a node, which has a key at a place. -/
abbrev SettingReader (α : Type) := Span → Node → α → Except ReadError α

section Readers

variable {α : Type}

/-- A setting that is true or false. -/
def truth (set : Bool → α → α) : SettingReader α := fun place n s =>
  match n with
  | .boolean b _ => .ok (set b s)
  | n => .error (mismatch place n "a boolean")

/-- A setting that is a text. -/
def text (expected : String) (set : String → α → α) : SettingReader α := fun place n s =>
  match n with
  | .string t _ => .ok (set t s)
  | n => .error (mismatch place n expected)

/-- Settings by their names. -/
def named (readers : List (String × SettingReader α)) (fields : List (Key × Node)) (s : α) :
    Except ReadError α :=
  fields.foldlM (fun s (k, n) =>
    match readers.lookup k.name with
    | some reader => reader k.span n s
    | none => .ok s) s

/-- A table of settings, or an array of them in order. -/
def section_ (expected : String) (readers : List (String × SettingReader α)) : SettingReader α :=
  fun place n s =>
    match n with
    | .table fields _ _ => named readers fields s
    | .datetime _ => .ok s
    | .array items _ | .tables items _ =>
      (readers.zip items).foldlM (fun s ((_, reader), n) => reader (n.span?.getD place) n s) s
    | n => .error (mismatch place n expected)

/-- What each setting of a document does to something. -/
structure Setters (α : Type) where
  debug : Bool → α → α
  idPrefix : String → α → α
  contextName : String → α → α
  logToFile : Bool → α → α
  logDirectory : String → α → α
  logLevel : String → α → α

/-- All settings. -/
def settingReaders (set : Setters α) : List (String × SettingReader α) :=
  [("debug", truth set.debug),
   ("bridge", section_ "struct BridgeConfig" [("id_prefix", text "a string" set.idPrefix)]),
   ("context", section_ "struct ContextConfig" [("variable", text "a string" set.contextName)]),
   ("logging", section_ "struct LoggingConfig"
     [("file", truth set.logToFile), ("file_path", text "path string" set.logDirectory),
      ("file_level", text "a string" set.logLevel)])]

end Readers

/-- Settings are set to what a document says. -/
def Settings.setters : Setters Settings where
  debug b s := { s with debug := b }
  idPrefix t s := { s with idPrefix := t }
  contextName t s := { s with contextName := t }
  logToFile b s := { s with logToFile := b }
  logDirectory t s := { s with logDirectory := some t }
  logLevel t s := { s with logLevel := t }

/-- The settings that a document gives. -/
def Settings.ofDocument (t : Table) : Except ReadError Settings :=
  named (settingReaders setters) t.fields {}

/-- The settings that a text gives, or a report on what is wrong with it. -/
def Settings.read (s : String) : Except String Settings :=
  match Toml.read s.toList >>= Settings.ofDocument with
  | .ok settings => .ok settings
  | .error e => .error (e.report s.toList)

end LuaSession.Config
