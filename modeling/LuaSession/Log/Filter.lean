import LuaSession.Log.Event

/-!
# Filters

A filter is a list of directives with commas between them. A directive names a level, a target, or
both: a target stands for all targets that begin with it. Of the directives for an event the one
with the longest target decides, and of two for one target the later one. A filter without any
directive lets errors through.

* `Filter.passes_append`: a directive that is not for an event does not matter to it.
-/

namespace LuaSession.Log

/-- A directive: for which targets, and the least grave level that passes, if any does. -/
structure Directive where
  target : String := ""
  level : Option Level := some .trace
  /-- A directive for spans or for events with some fields, which is for no event here. -/
  narrow : Bool := false
  deriving DecidableEq, Repr

/-- A filter. -/
structure Filter where
  directives : List Directive
  deriving DecidableEq, Repr

/-- The level of a number. -/
def levelOfNumber : Nat → Option (Option Level)
  | 0 => some none
  | 1 => some (some .error)
  | 2 => some (some .warn)
  | 3 => some (some .info)
  | 4 => some (some .debug)
  | 5 => some (some .trace)
  | _ => none

/-- The level of a word, in any case, or of a number; `off` is no level. -/
def readLevel (s : List Char) : Option (Option Level) :=
  let digits := if s.head? == some '+' then s.drop 1 else s
  if !digits.isEmpty && digits.all Char.isDigit then
    levelOfNumber (digits.foldl (fun n c => n * 10 + (c.toNat - 48)) 0)
  else
    match (String.ofList s).toLower with
    | "" | "error" => some (some .error)
    | "warn" => some (some .warn)
    | "info" => some (some .info)
    | "debug" => some (some .debug)
    | "trace" => some (some .trace)
    | "off" => some none
    | _ => none

namespace Directive

/-- What follows a target: nothing, or a level after a sign. -/
def readRest (d : Directive) : List Char → Option Directive
  | [] => some d
  | ['='] => some d
  | '=' :: r => (readLevel r).map fun level => { d with level }
  | _ => none

/-- What follows an opening bracket: a span, fields of it, and the closing bracket. -/
def readSpan (d : Directive) (s : List Char) : Option Directive :=
  let isEnd (c : Char) : Bool := c == ']' || c == '\x7b'
  match s.dropWhile fun c => !isEnd c with
  | ']' :: r => readRest { d with narrow := true } r
  | '\x7b' :: r =>
    match r.takeWhile (· != '\x7d'), r.dropWhile (· != '\x7d') with
    | _ :: _, '\x7d' :: ']' :: r => readRest { d with narrow := true } r
    | _, _ => none
  | _ => none

/-- A directive without blanks around it. -/
def read (s : List Char) : Option Directive :=
  let isEnd (c : Char) : Bool := c == '=' || c == '['
  match s with
  | [] => none
  | '[' :: r => readSpan {} r
  | c :: _ =>
    if c.toNat < 128 && !(c.isAlphanum || c == '-' || c == ':' || c == '_') then none
    else
      let head := s.takeWhile fun c => !isEnd c
      match s.dropWhile fun c => !isEnd c with
      | [] =>
        match readLevel head with
        | some level => some { level }
        | none => some { target := String.ofList head }
      | '[' :: r => readSpan { target := String.ofList head } r
      | r => readRest { target := String.ofList head } r

/-- Whether a directive is for an event. -/
def covers (d : Directive) (e : Event) : Bool :=
  !d.narrow && d.target.toList.isPrefixOf e.target.toList

/-- Whether a directive lets an event of a level through. -/
def admits (d : Directive) (l : Level) : Bool :=
  match d.level with
  | some most => l.rank ≤ most.rank
  | none => false

/-- Of two directives, the one that decides: the one with the longer target, or else the later. -/
def prefer (old : Option Directive) (d : Directive) : Option Directive :=
  match old with
  | some o => if d.target.length < o.target.length then some o else some d
  | none => some d

end Directive

namespace Filter

/-- Blanks around a directive do not count. -/
def trim (s : List Char) : List Char :=
  let isSpace (c : Char) : Bool := c.isWhitespace
  ((s.dropWhile isSpace).reverse.dropWhile isSpace).reverse

/-- The filter of a text. What is no directive is passed over. -/
def read (s : String) : Filter :=
  ⟨(s.splitOn ",").filterMap fun part => Directive.read (trim part.toList)⟩

/-- The filter of a text of which every part is a directive. -/
def read? (s : String) : Option Filter := do
  let parts := ((s.splitOn ",").map String.toList).filter fun part => !part.isEmpty
  return ⟨← parts.mapM fun part => Directive.read (trim part)⟩

/-- The directive that decides about an event. -/
def deciding (f : Filter) (e : Event) : Option Directive :=
  (f.directives.filter (·.covers e)).foldl Directive.prefer none

/-- Whether an event passes. -/
def passes (f : Filter) (e : Event) : Bool :=
  if f.directives.isEmpty then e.level == .error
  else
    match f.deciding e with
    | some d => d.admits e.level
    | none => false

/-- A directive that is not for an event changes nothing for it. -/
theorem passes_append {f : Filter} {d : Directive} {e : Event} (h : f.directives ≠ [])
    (hd : d.covers e = false) : passes ⟨f.directives ++ [d]⟩ e = passes f e := by
  simp [passes, deciding, List.filter_append, hd, h]

end Filter

end LuaSession.Log
