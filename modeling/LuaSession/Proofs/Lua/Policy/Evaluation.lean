import LuaSession.Lua.Eval
import LuaSession.Proofs.Lua.Policy

/-!
# Programs obey every stable policy

A program reaches the outside through built-in functions only: whatever it evaluates, it makes no
request itself. What it does to the memory, a stable policy outlasts.

* `Obeys.execBlock`: a block obeys every stable policy.
* `Obeys.run`: so does the body of a function.
-/

namespace LuaSession.Lua.Task.Obeys

variable {α : Type} {p : Policy}

/-! ### Operators -/

@[grind ←]
theorem callOne (f : Value) (args : List Value) (site : Site) :
    (Task.callOne f args site).Obeys p :=
  bind (call f args site) fun _ => pure _

@[grind ←]
theorem failType (origin : Origin) (action : String) (v : Value) (label : Option Label) :
    (Task.failType origin action v label : Task α).Obeys p :=
  bind (read _) fun _ => failAt _ _

@[grind ←]
theorem indexFrom (origin : Origin) (key : Value) (fuel : Nat) (v : Value)
    (label : Option Label) : (Task.indexFrom origin key fuel v label).Obeys p := by
  induction fuel generalizing v label with
  | zero => exact fail _ _
  | succ fuel ih =>
    unfold Task.indexFrom
    grind

@[grind ←]
theorem index (origin : Origin) (v key : Value) (label : Option Label) :
    (Task.index origin v key label).Obeys p :=
  indexFrom _ _ _ _ _

@[grind ←]
theorem binaryMeta (event : String) (a b : Value) : (Task.binaryMeta event a b).Obeys p := by
  unfold Task.binaryMeta
  grind

@[grind ←]
theorem failArith (origin : Origin) (op : Binary) (a b : Value) (la lb : Option Label) :
    (Task.failArith origin op a b la lb : Task α).Obeys p := by
  unfold Task.failArith
  grind

@[grind ←]
theorem arith (origin : Origin) (op : Binary) (a b : Value) (la lb : Option Label) :
    (Task.arith origin op a b la lb).Obeys p := by
  unfold Task.arith
  grind

@[grind ←]
theorem failOrder (origin : Origin) (a b : Value) :
    (Task.failOrder origin a b : Task α).Obeys p := by
  unfold Task.failOrder
  grind

@[grind ←]
theorem below (origin : Origin) (a b : Value) : (Task.below origin a b).Obeys p := by
  unfold Task.below
  grind

@[grind ←]
theorem upTo (origin : Origin) (a b : Value) : (Task.upTo origin a b).Obeys p := by
  unfold Task.upTo
  grind

@[grind ←]
theorem equal (origin : Origin) (a b : Value) : (Task.equal origin a b).Obeys p := by
  unfold Task.equal
  grind

@[grind ←]
theorem concat (origin : Origin) (a b : Value) (la lb : Option Label) :
    (Task.concat origin a b la lb).Obeys p := by
  unfold Task.concat
  grind

@[grind ←]
theorem length (origin : Origin) (v : Value) (label : Option Label) :
    (Task.length origin v label).Obeys p := by
  unfold Task.length
  grind

@[grind ←]
theorem binary (origin : Origin) (op : Binary) (a b : Value) (la lb : Option Label) :
    (Task.binary origin op a b la lb).Obeys p := by
  unfold Task.binary
  grind

@[grind ←]
theorem unary (origin : Origin) (op : Unary) (a : Value) (label : Option Label) :
    (Task.unary origin op a label).Obeys p := by
  unfold Task.unary
  grind

@[grind ←]
theorem text (origin : Origin) (v : Value) : (Task.text origin v).Obeys p := by
  unfold Task.text
  grind

@[grind ←]
theorem here (line : Nat) : (Task.here line).Obeys p :=
  read _

@[grind ←]
theorem failFor (origin : Origin) (what : String) (v : Value) :
    (Task.failFor origin what v : Task α).Obeys p := by
  unfold Task.failFor
  grind

@[grind ←]
theorem forLimit (origin : Origin) (start step : Int64) (limit : Value) :
    (Task.forLimit origin start step limit).Obeys p := by
  unfold Task.forLimit
  grind

@[grind ←]
theorem forRange {origin : Origin} {start limit step : Value} {round : Value → Task Flow}
    (h : ∀ v, (round v).Obeys p) : (Task.forRange origin start limit step round).Obeys p := by
  unfold Task.forRange
  split
  case h_1 =>
    refine guard (fail _ _) fun _ => bind (forLimit _ _ _ _) fun l => ?_
    split
    · exact pure _
    · exact loop fun state => by split <;> grind
  case h_2 =>
    split
    · exact failFor _ _ _
    · split
      · exact failFor _ _ _
      · split
        · exact failFor _ _ _
        · refine guard (fail _ _) fun _ => ite (pure _) (loop fun state => ?_)
          split <;> grind

@[grind ←]
theorem closing {origin : Origin} {name : String} {v : Value} {part : Task Flow}
    (h : part.Obeys p) : (Task.closing origin name v part).Obeys p := by
  unfold Task.closing
  split
  · exact h
  · refine bind (read _) fun tm => guard (fail _ _) fun _ => bind (protect h) fun r => ?_
    split
    · exact bind (bind (read _) fun _ => bind (call _ _ _) fun _ => pure _) fun _ => pure _
    · exact bind (bind (read _) fun _ => bind (call _ _ _) fun _ => pure _) fun _ => rethrow _

/-! ### Changes of the memory -/

/-- Putting list items into a table is setting their keys. -/
theorem putItems_eq (t : Table) (n : Nat) (vs : List Value) :
    putItems t n vs =
      (vs.zipIdx n).foldl (fun t e => t.set (.int (Int64.ofNat e.2)) e.1) t := by
  induction vs generalizing t n with
  | nil => rfl
  | cons v vs ih => rw [putItems, ih]; rfl

section Stable

variable (hp : p.Stable)

include hp

@[grind ←]
theorem setRaw (origin : Origin) (id : Nat) (key value : Value) :
    (Task.setRaw origin id key value).Obeys p := by
  unfold Task.setRaw
  split
  · exact fail _ _
  · split
    case isTrue => exact fail _ _
    case isFalse x hx =>
      have hkey : (Value.float x).IsKey := by simpa [Value.IsKey] using hx
      exact update fun m hm => hp.set m id _ value hkey hm
  · have hkey : key.IsKey := by cases key <;> simp_all [Value.IsKey]
    exact update fun m hm => hp.set m id key value hkey hm

@[grind ←]
theorem setIndexFrom (origin : Origin) (key value : Value) (fuel : Nat) (v : Value)
    (label : Option Label) : (Task.setIndexFrom origin key value fuel v label).Obeys p := by
  induction fuel generalizing v label with
  | zero => exact fail _ _
  | succ fuel ih =>
    unfold Task.setIndexFrom
    grind

@[grind ←]
theorem setIndex (origin : Origin) (v key value : Value) (label : Option Label) :
    (Task.setIndex origin v key value label).Obeys p :=
  setIndexFrom hp _ _ _ _ _ _

theorem assign (place : Place) (v : Value) :
    (Task.update fun m => m.assign place v).Obeys p := by
  refine update fun m hm => ?_
  cases place with
  | slot i =>
    simp only [Mem.assign, Mem.assignSlot]
    split
    · exact hp.cells m _ hm
    · exact hp.frame m _ m.act hm
  | captured i =>
    simp only [Mem.assign]
    split
    · exact hp.cells m _ hm
    · exact hm

theorem declareSlot (i : Nat) (v : Value) :
    (Task.update fun m => m.declareSlot i v).Obeys p := by
  refine update fun m hm => ?_
  simp only [Mem.declareSlot]
  split
  · exact hp.frame _ _ m.act (hp.cells m _ hm)
  · exact hp.frame m _ m.act hm

theorem declareSlots (slots : List Nat) (vs : List Value) :
    (Task.declareSlots slots vs).Obeys p := by
  induction slots generalizing vs with
  | nil => exact pure _
  | cons i slots ih => exact bind (declareSlot hp i _) fun _ => ih _

theorem store (d : Dest) (v : Value) : (Task.store d v).Obeys p := by
  cases d with
  | var place => exact assign hp place v
  | index origin t k label => exact setIndex hp origin t k v label

theorem storeAll (ds : List Dest) (vs : List Value) : (Task.storeAll ds vs).Obeys p := by
  induction ds generalizing vs with
  | nil => exact pure _
  | cons d ds ih => exact bind (ih _) fun _ => store hp d _

theorem putItems (id : Nat) (vs : List Value) :
    (Task.update fun m => m.modifyTable id fun t => Task.putItems t 1 vs).Obeys p := by
  refine update fun m hm => ?_
  simp only [putItems_eq]
  exact hp.sets hm id (vs.zipIdx 1) fun _ => Value.isKey_int _

end Stable

/-! ### Expressions -/

mutual

theorem evalExpr (hp : p.Stable) (e : Expr) : (Lua.evalExpr e).Obeys p := by
  cases e with
  | nil | bool | int | float | str =>
    unfold Lua.evalExpr
    exact pure _
  | varargs | var =>
    unfold Lua.evalExpr
    exact read _
  | index t k line =>
    unfold Lua.evalExpr
    exact bind (evalExpr hp t) fun _ => bind (evalExpr hp k) fun _ => bind (here _) fun _ => index _ _ _ _
  | call f args line =>
    unfold Lua.evalExpr
    exact bind (evalExpr hp f) fun _ => bind (evalList hp args) fun _ => bind (here _) fun _ =>
      callOne _ _ _
  | invoke o name args line =>
    unfold Lua.evalExpr
    exact bind (evalExpr hp o) fun _ => bind (here _) fun _ => bind (index _ _ _ _) fun _ =>
      bind (evalList hp args) fun _ => callOne _ _ _
  | function f =>
    unfold Lua.evalExpr
    exact change fun m hm => hp.newFunc m _ hm
  | unary op a line =>
    unfold Lua.evalExpr
    exact bind (evalExpr hp a) fun _ => bind (here _) fun _ => unary _ _ _ _
  | not a =>
    unfold Lua.evalExpr
    exact bind (evalExpr hp a) fun _ => pure _
  | binary op a b line =>
    unfold Lua.evalExpr
    refine bind (evalExpr hp a) fun va => bind (evalExpr hp b) fun vb => ?_
    split
    · exact pure _
    · exact bind (here _) fun _ => binary _ _ _ _ _ _
  | and a b =>
    unfold Lua.evalExpr
    exact bind (evalExpr hp a) fun _ => ite (evalExpr hp b) (pure _)
  | or a b =>
    unfold Lua.evalExpr
    exact bind (evalExpr hp a) fun _ => ite (pure _) (evalExpr hp b)
  | paren a =>
    unfold Lua.evalExpr
    exact evalExpr hp a
  | construct fields line =>
    unfold Lua.evalExpr
    exact bind (change fun m hm => hp.newTable m _ (Table.textsOnce_sized ..) hm) fun id =>
      bind (evalFields hp id line fields) fun vs => bind (putItems hp id vs) fun _ => pure _

theorem evalOpen (hp : p.Stable) (e : Expr) : (Lua.evalOpen e).Obeys p := by
  unfold Lua.evalOpen
  split
  case h_1 => exact read _
  case h_2 f args line =>
    exact bind (evalExpr hp f) fun _ => bind (evalList hp args) fun _ => bind (here _) fun _ => call _ _ _
  case h_3 o name args line =>
    exact bind (evalExpr hp o) fun _ => bind (here _) fun _ => bind (index _ _ _ _) fun _ =>
      bind (evalList hp args) fun _ => call _ _ _
  case h_4 => exact bind (evalExpr hp e) fun _ => pure _

theorem evalList (hp : p.Stable) (es : List Expr) : (Lua.evalList es).Obeys p := by
  unfold Lua.evalList
  split
  case h_1 => exact pure _
  case h_2 e => exact evalOpen hp e
  case h_3 e es _ => exact bind (evalExpr hp e) fun _ => bind (evalList hp es) fun _ => pure _

theorem evalFields (hp : p.Stable) (id line : Nat) (fields : List Field) :
    (Lua.evalFields id line fields).Obeys p := by
  unfold Lua.evalFields
  split
  case h_1 => exact pure _
  case h_2 e => exact evalOpen hp e
  case h_3 e rest _ => exact bind (evalExpr hp e) fun _ => bind (evalFields hp id line rest) fun _ => pure _
  case h_4 k e rest =>
    exact bind (evalExpr hp k) fun _ => bind (evalExpr hp e) fun _ => bind (here _) fun _ =>
      bind (setRaw hp _ _ _ _) fun _ => evalFields hp id line rest

end

/-! ### Statements -/

theorem evalTargets (hp : p.Stable) (targets : List Target) : (Lua.evalTargets targets).Obeys p := by
  induction targets with
  | nil =>
    unfold Lua.evalTargets
    exact pure _
  | cons target rest ih =>
    cases target with
    | var place =>
      unfold Lua.evalTargets
      exact bind ih fun _ => pure _
    | index t k line =>
      unfold Lua.evalTargets
      exact bind (evalExpr hp t) fun _ => bind (evalExpr hp k) fun _ => bind (here _) fun _ =>
        bind ih fun _ => pure _

/-- How a body of a loop ends decides whether there is another round. -/
theorem round {body : Task Flow} (h : body.Obeys p) (next : List Value) :
    (do
      match ← body with
      | .normal => return .inl next
      | .leaveLoop => return .inr .normal
      | flow => return .inr flow : Task (List Value ⊕ Flow)).Obeys p := by
  refine bind h fun flow => ?_
  split <;> exact pure _

mutual

theorem execStat (hp : p.Stable) (s : Stat) : (Lua.execStat s).Obeys p := by
  cases s with
  | call e =>
    unfold Lua.execStat
    exact bind (evalOpen hp e) fun _ => pure _
  | assign targets values =>
    unfold Lua.execStat
    exact bind (evalTargets hp targets) fun _ => bind (evalList hp values) fun _ =>
      bind (storeAll hp _ _) fun _ => pure _
  | declare slots values =>
    unfold Lua.execStat
    exact bind (evalList hp values) fun _ => bind (declareSlots hp _ _) fun _ => pure _
  | closing slot name line rest =>
    unfold Lua.execStat
    exact bind (read _) fun _ => bind (here _) fun _ => closing (execBlock hp rest)
  | scope body =>
    unfold Lua.execStat
    exact execBlock hp body
  | whileDo c body =>
    unfold Lua.execStat
    exact loop fun _ => bind (evalExpr hp c) fun _ => ite (round (execBlock hp body) _) (pure _)
  | repeatUntil body c =>
    unfold Lua.execStat
    refine loop fun _ => bind (execBlock hp body) fun flow => ?_
    split
    · exact bind (evalExpr hp c) fun _ => ite (pure _) (pure _)
    · exact pure _
    · exact pure _
  | ifElse c yes no =>
    unfold Lua.execStat
    exact bind (evalExpr hp c) fun _ => ite (execBlock hp yes) (execBlock hp no)
  | forRange slot start limit step body line =>
    unfold Lua.execStat
    exact bind (evalExpr hp start) fun _ => bind (evalExpr hp limit) fun _ =>
      bind (evalExpr hp step) fun _ => bind (here _) fun _ =>
        forRange fun v => bind (declareSlot hp slot v) fun _ => execBlock hp body
  | forIn slots values body line =>
    unfold Lua.execStat
    refine bind (evalList hp values) fun vs => bind (here _) fun origin => ?_
    split
    · refine closing (loop fun state => bind (call _ _ _) fun rs => ?_)
      split
      · exact pure _
      · exact bind (declareSlots hp _ _) fun _ => round (execBlock hp body) _
    · exact pure _
  | leaveLoop | goto =>
    unfold Lua.execStat
    exact pure _
  | giveBack values =>
    unfold Lua.execStat
    exact bind (evalList hp values) fun _ => pure _
  | giveCall f args line =>
    unfold Lua.execStat
    exact bind (evalExpr hp f) fun _ => bind (evalList hp args) fun _ => bind (here _) fun _ => pure _
  | giveInvoke o name args line =>
    unfold Lua.execStat
    exact bind (evalExpr hp o) fun _ => bind (here _) fun _ => bind (index _ _ _ _) fun _ =>
      bind (evalList hp args) fun _ => pure _

theorem execFrom (hp : p.Stable) (stats : List Stat) (skip : Nat) : (Lua.execFrom stats skip).Obeys p := by
  unfold Lua.execFrom
  split
  case h_1 => exact pure _
  case h_2 rest n => exact execFrom hp rest n
  case h_3 s rest =>
    refine bind (execStat hp s) fun flow => ?_
    split
    · exact execFrom hp rest 0
    · exact pure _

theorem execBlock (hp : p.Stable) (b : Block) : (Lua.execBlock b).Obeys p := by
  unfold Lua.execBlock
  split
  case h_1 stats => exact execFrom hp stats 0
  case h_2 stats labels _ =>
    refine loop fun state => bind (execFrom hp stats _) fun flow => ?_
    split
    · split <;> exact pure _
    · exact pure _

end

theorem run (hp : p.Stable) (f : Proto) : (f.run).Obeys p := by
  cases f
  exact execBlock hp _

end LuaSession.Lua.Task.Obeys
