import LuaSession.Lua.Syntax
import LuaSession.Lua.Token

/-!
# Scopes

What a reader of a program knows at each place: the functions around it, their blocks, the variables
that can be seen, and the jumps whose labels are still to come.

A variable that an inner function uses becomes a capture of that function and of every function
between it and the one that declares the variable.
-/

namespace LuaSession.Lua

/-- What may be done with a variable. -/
inductive Access
  | free | fixed | closing
  deriving DecidableEq, Repr, Inhabited

/-- A variable that can be seen. -/
structure Variable where
  name : String
  slot : Nat
  access : Access
  deriving Repr

/-- A variable of an enclosing function. -/
structure Capture where
  name : String
  source : Place
  access : Access
  deriving Repr, Inhabited

/-- A label or a jump: its name, its line and the number of variables seen there. -/
structure Mark where
  name : String
  line : Nat
  level : Nat
  deriving Repr

/-- A block that is being read. -/
structure BlockScope where
  level : Nat
  isLoop : Bool
  closes : Bool
  labels : List Mark := []
  jumps : List Mark := []
  deriving Repr

/-- A function that is being read. The variables and the blocks begin with the innermost. -/
structure FunctionScope where
  line : Nat
  takesMore : Bool
  vars : List Variable := []
  slots : Nat := 0
  shared : Array Bool := #[]
  captures : Array Capture := #[]
  blocks : List BlockScope := [⟨0, false, false, [], []⟩]
  deriving Repr

namespace FunctionScope

/-- The number of variables that can be seen. -/
def level (f : FunctionScope) : Nat := f.vars.length

/-- Adds a variable with a slot of its own. -/
def declare (f : FunctionScope) (name : String) (access : Access) : Nat × FunctionScope :=
  (f.slots,
   { f with
     vars := ⟨name, f.slots, access⟩ :: f.vars
     slots := f.slots + 1
     shared := f.shared.push false })

/-- Records that a variable is captured by an inner function. -/
def share (f : FunctionScope) (place : Place) : FunctionScope :=
  match place with
  | .slot i => { f with shared := f.shared.setIfInBounds i true }
  | .captured _ => f

/-- Changes the innermost block. -/
def modifyBlock (f : FunctionScope) (g : BlockScope → BlockScope) : FunctionScope :=
  match f.blocks with
  | b :: bs => { f with blocks := g b :: bs }
  | [] => f

/-- The label of this name in the function. -/
def label? (f : FunctionScope) (name : String) : Option Mark :=
  f.blocks.findSome? fun b => b.labels.find? (·.name == name)

/-- Whether a variable that is to be closed can be seen. -/
def closes (f : FunctionScope) : Bool :=
  (f.blocks.head?.map (·.closes)).getD false

end FunctionScope

/-- Finds a variable by its name, for the innermost function, and records the captures that it
needs. -/
def resolve (name : String) :
    List FunctionScope → Option (Place × Access × List FunctionScope)
  | [] => none
  | f :: outer =>
    match f.vars.find? (·.name == name) with
    | some v => some (.slot v.slot, v.access, f :: outer)
    | none =>
      match f.captures.findIdx? (·.name == name) with
      | some i => some (.captured i, ((f.captures.map (·.access)).getD i .free), f :: outer)
      | none =>
        match resolve name outer with
        | none => none
        | some (place, access, outer) =>
          let outer := match outer with
            | g :: rest => g.share place :: rest
            | [] => []
          some (.captured f.captures.size, access,
            { f with captures := f.captures.push ⟨name, place, access⟩ } :: outer)

/-- What is found in the list of scopes is as many scopes again. -/
theorem length_resolve {name : String} {fs gs : List FunctionScope} {p : Place} {a : Access}
    (h : resolve name fs = some (p, a, gs)) : gs.length = fs.length := by
  induction fs generalizing gs p a with
  | nil => simp [resolve] at h
  | cons f outer ih =>
    simp only [resolve] at h
    split at h
    · simp only [Option.some.injEq, Prod.mk.injEq] at h
      rw [← h.2.2]
    · split at h
      · simp only [Option.some.injEq, Prod.mk.injEq] at h
        rw [← h.2.2]
      · split at h
        · simp at h
        · rename_i hr
          have := ih hr
          simp only [Option.some.injEq, Prod.mk.injEq] at h
          obtain ⟨_, _, rfl⟩ := h
          simp only [List.length_cons]
          split <;> simp_all

/-- Why a source text is no program. -/
inductive SourceFault
  | malformed (message : ByteArray)
  | tooDeep

namespace SourceFault

/-- The wording of a fault. -/
def message : SourceFault → ByteArray
  | .malformed m => m
  | .tooDeep => bytes "C stack overflow"

end SourceFault

/-- How messages name a chunk: what follows an equality sign, the file that follows an at sign, and
otherwise the beginning of the source. -/
def chunkName (source : ByteArray) : ByteArray :=
  match source.data.toList with
  | 0x3D :: r => ofByteList (r.take 59)
  | 0x40 :: r =>
    if r.length ≤ 59 then ofByteList r
    else bytes "..." ++ ofByteList (r.drop (r.length - 56))
  | s =>
    let line := s.takeWhile (· != 0x0A)
    let shown :=
      if line.length == s.length && s.length < 45 then ofByteList s
      else ofByteList (line.take 45) ++ bytes "..."
    bytes "[string \"" ++ shown ++ bytes "\"]"

end LuaSession.Lua
