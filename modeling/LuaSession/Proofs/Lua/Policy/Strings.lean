import LuaSession.Proofs.Lua.Policy.Library

/-!
# The functions on strings ask nothing of the outside

Formats, layouts, patterns and substitution only compute, call back into the program and raise errors.

* `StringFn.run_obeys`: they obey every stable policy.
-/

namespace LuaSession.Lua

open LuaSession.Lua.Task

variable {α : Type} {p : Policy}

/-! ### Formats -/

namespace Format

@[grind ←]
theorem failSpec_obeys (c : Call) (form : List Char) : (failSpec c form : Task α).Obeys p :=
  c.fail_obeys _

@[grind ←]
theorem convert_obeys (c : Call) (n : Nat) (form : List Char) (letter : Char) :
    (convert c n form letter).Obeys p := by
  unfold convert
  grind

@[grind ←]
theorem render_obeys (c : Call) (fuel : Nat) (s : List UInt8) (n : Nat) (acc : ByteArray) :
    (render c fuel s n acc).Obeys p := by
  induction fuel generalizing s n acc with
  | zero => exact .pure _
  | succ fuel ih =>
    unfold render
    grind

@[grind ←]
theorem run_obeys (c : Call) : (run c).Obeys p :=
  .bind (c.string_obeys 1) fun _ => .bind (render_obeys c _ _ _ _) fun _ => .pure _

end Format

/-! ### Layouts -/

namespace Pack

@[grind ←]
theorem limited_obeys (c : Call) (size : Option Nat) (default : Nat) :
    (limited c size default).Obeys p := by
  unfold limited
  grind

@[grind ←]
theorem item_obeys (c : Call) (style : Style) (b : UInt8) (s : List UInt8) :
    (item c style b s).Obeys p := by
  unfold item
  grind

@[grind ←]
theorem paddingBefore_obeys (c : Call) (style : Style) (wanted place : Nat) :
    (paddingBefore c style wanted place).Obeys p := by
  unfold paddingBefore
  grind

@[grind ←]
theorem next_obeys (c : Call) (style : Style) (b : UInt8) (s : List UInt8) (place : Nat) :
    (next c style b s place).Obeys p := by
  unfold next
  refine .bind (item_obeys c style b s) fun found => ?_
  dsimp only
  split
  · split
    · exact c.failArg_obeys _ _
    · refine .bind (item_obeys c _ _ _) fun following => .guard (c.failArg_obeys _ _) fun _ => ?_
      exact .bind (paddingBefore_obeys c _ _ _) fun _ => .pure _
  · exact .bind (paddingBefore_obeys c _ _ _) fun _ => .pure _

@[grind ←]
theorem packFrom_obeys (c : Call) (fuel : Nat) (style : Style) (s : List UInt8) (n : Nat)
    (acc : ByteArray) : (packFrom c fuel style s n acc).Obeys p := by
  induction fuel generalizing style s n acc with
  | zero => exact .pure _
  | succ fuel ih =>
    unfold packFrom
    grind

@[grind ←]
theorem sizeFrom_obeys (c : Call) (fuel : Nat) (style : Style) (s : List UInt8) (total : Nat) :
    (sizeFrom c fuel style s total).Obeys p := by
  induction fuel generalizing style s total with
  | zero => exact .pure _
  | succ fuel ih =>
    unfold sizeFrom
    grind

@[grind ←]
theorem readInt_obeys (c : Call) (style : Style) (isSigned : Bool) (bs : List UInt8) :
    (readInt c style isSigned bs).Obeys p := by
  unfold readInt
  grind

@[grind ←]
theorem unpackFrom_obeys (c : Call) (t : ByteArray) (fuel : Nat) (style : Style) (s : List UInt8)
    (i : Nat) : (unpackFrom c t fuel style s i).Obeys p := by
  induction fuel generalizing style s i with
  | zero => exact .pure _
  | succ fuel ih =>
    unfold unpackFrom
    split
    · exact .pure _
    · refine .bind (next_obeys c _ _ _ _) fun found => .guard (c.failArg_obeys _ _) fun _ => ?_
      dsimp only
      split
      all_goals grind

@[grind ←]
theorem pack_obeys (c : Call) : (pack c).Obeys p :=
  .bind (c.string_obeys 1) fun _ => .bind (packFrom_obeys c _ _ _ _ _) fun _ => .pure _

@[grind ←]
theorem size_obeys (c : Call) : (size c).Obeys p :=
  .bind (c.string_obeys 1) fun _ => .bind (sizeFrom_obeys c _ _ _ _) fun _ => .pure _

@[grind ←]
theorem unpack_obeys (c : Call) : (unpack c).Obeys p :=
  .bind (c.string_obeys 1) fun _ => .bind (c.string_obeys 2) fun _ => .bind (c.intOr_obeys 3 1) fun _ =>
    .guard (c.failArg_obeys 3 _) fun _ => unpackFrom_obeys c _ _ _ _ _

end Pack

/-! ### Patterns -/

namespace StringFn

@[grind ←]
theorem sound_obeys (c : Call) (r : Except String α) : (sound c r).Obeys p := by
  cases r with
  | ok a => exact .pure _
  | error e => exact c.fail_obeys _

@[grind ←]
theorem findAux_obeys (c : Call) (isFind : Bool) : (findAux c isFind).Obeys p := by
  unfold findAux
  grind

@[grind ←]
theorem replacementFor_obeys (c : Call) (x : Match.Subject) (first stop : Nat)
    (captures : Array Match.Capture) : (replacementFor c x first stop captures).Obeys p := by
  unfold replacementFor
  grind

@[grind ←]
theorem replaceAll_obeys (c : Call) : (replaceAll c).Obeys p := by
  unfold replaceAll
  refine .bind (c.string_obeys 1) fun s => .bind (c.string_obeys 2) fun pattern => ?_
  cases c.arg 3
  case' nil | bool | thread | failure | file => refine .bind (c.failType_obeys _ _) fun _ => ?_
  all_goals
    refine .bind (c.intOr_obeys _ _) fun limit => ?_
    dsimp only
    split
    · exact .bind (sound_obeys c _) fun _ => .pure _
    · refine .bind (.loop fun state => ?_) fun flow => by split <;> exact .pure _
      split
      · refine .ite (.pure _) (.bind (sound_obeys c _) fun found => ?_)
        split
        · exact .pure _
        · exact .bind (replacementFor_obeys c _ _ _ _) fun _ => .ite (.pure _) (.pure _)
      · exact .pure _

theorem nextMatch_obeys (hp : p.Stable) (c : Call) (x : Match.Subject) (cell : Nat) :
    (nextMatch c x cell).Obeys p := by
  have hset (f : Mem → Array Value) : (update fun m => { m with cells := f m }).Obeys p :=
    .update fun m hm => hp.cells m _ hm
  unfold nextMatch
  refine .bind (.read _) fun place => .bind (.read _) fun last => .bind (sound_obeys c _) fun r => ?_
  split
  · exact .bind (hset _) fun _ => .pure _
  · exact .bind (hset _) fun _ => sound_obeys c _

@[grind ←]
theorem calculate_obeys (c : Call) (op : StringOp) : (calculate c op).Obeys p := by
  unfold calculate
  grind

theorem run_obeys (hp : p.Stable) (f : StringFn) (c : Call) : (f.run c).Obeys p := by
  have hcell (v : Value) : (change fun m => m.newCell v).Obeys p :=
    .change fun m hm => hp.cells m _ hm
  cases f <;> unfold run <;> dsimp only
  case gmatch =>
    refine .bind (c.string_obeys 1) fun s => .bind (c.string_obeys 2) fun pattern =>
      .bind (c.intOr_obeys _ _) fun first => .bind (hcell _) fun place => ?_
    exact .bind (hcell _) fun _ => .bind (.newBuiltin hp _) fun _ => .pure _
  case find | match_ => exact findAux_obeys c _
  case format => exact Format.run_obeys c
  case gsub => exact replaceAll_obeys c
  case pack => exact Pack.pack_obeys c
  case packsize => exact Pack.size_obeys c
  case unpack => exact Pack.unpack_obeys c
  all_goals grind

end StringFn

end LuaSession.Lua
