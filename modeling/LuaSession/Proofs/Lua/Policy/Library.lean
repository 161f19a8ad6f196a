import LuaSession.Proofs.Lua.Policy.Evaluation
import LuaSession.Proofs.Lua.Requests

/-!
# The libraries of the language and policies

Each function keeps to a stable policy that allows what the function may ask.

* `BasicFn.run_obeys`, `TableFn.run_obeys`, `MathFn.run_obeys`, `Utf8Fn.run_obeys`,
  `CoroutineFn.run_obeys`, `IoFn.run_obeys`, `OsFn.run_obeys`: one for each library.
-/

namespace LuaSession.Lua

open LuaSession.Lua.Task

variable {α : Type} {p : Policy}

/-! ### Arguments -/

namespace Call

@[grind ←]
theorem fail_obeys (c : Call) (message : String) : (c.fail message : Task α).Obeys p :=
  .fail _ _

@[grind ←]
theorem failArg_obeys (c : Call) (n : Nat) (message : ByteArray) :
    (c.failArg n message : Task α).Obeys p := by
  unfold failArg
  dsimp only
  split
  · exact .ite (.failAt _ _) (.failAt _ _)
  · exact .failAt _ _
  · exact .failAt _ _

@[grind ←]
theorem failType_obeys (c : Call) (n : Nat) (expected : String) :
    (c.failType n expected : Task α).Obeys p :=
  .either (.read _) (.pure _) fun _ => c.failArg_obeys n _

@[grind ←]
theorem any_obeys (c : Call) (n : Nat) : (c.any n).Obeys p :=
  .ite (.pure _) (c.failArg_obeys n _)

@[grind ←]
theorem table_obeys (c : Call) (n : Nat) : (c.table n).Obeys p := by
  unfold table
  split
  · exact .pure _
  · exact c.failType_obeys n _

@[grind ←]
theorem function_obeys (c : Call) (n : Nat) : (c.function n).Obeys p := by
  unfold function
  split
  · exact .pure _
  · exact c.failType_obeys n _

@[grind ←]
theorem string_obeys (c : Call) (n : Nat) : (c.string n).Obeys p := by
  unfold string
  split
  · exact .pure _
  · exact c.failType_obeys n _

@[grind ←]
theorem stringOr_obeys (c : Call) (n : Nat) (default : ByteArray) :
    (c.stringOr n default).Obeys p :=
  .ite (.pure _) (c.string_obeys n)

@[grind ←]
theorem float_obeys (c : Call) (n : Nat) : (c.float n).Obeys p := by
  unfold float
  split
  · exact .pure _
  · exact c.failType_obeys n _

@[grind ←]
theorem number_obeys (c : Call) (n : Nat) : (c.number n).Obeys p := by
  unfold number
  split
  · exact .pure _
  · exact c.failType_obeys n _

@[grind ←]
theorem int_obeys (c : Call) (n : Nat) : (c.int n).Obeys p := by
  unfold int
  split
  · split
    · exact .pure _
    · exact c.failArg_obeys n _
  · exact c.failType_obeys n _

@[grind ←]
theorem intOr_obeys (c : Call) (n : Nat) (default : Int) : (c.intOr n default).Obeys p :=
  .ite (.pure _) (c.int_obeys n)

@[grind ←]
theorem choice_obeys (c : Call) (n : Nat) (default : Option String) (words : List String) :
    (c.choice n default words).Obeys p := by
  unfold choice
  split
  · refine .bind (c.stringOr_obeys n _) fun s => ?_
    dsimp only
    split
    · exact .pure _
    · exact c.failArg_obeys n _
  · refine .bind (c.string_obeys n) fun s => ?_
    dsimp only
    split
    · exact .pure _
    · exact c.failArg_obeys n _

end Call

/-! ### Coroutines -/

namespace CoroutineFn

@[grind ←]
theorem thread_obeys (c : Call) (n : Nat) : (thread c n).Obeys p := by
  unfold thread
  grind

@[grind ←]
theorem goOn_obeys (c : Call) (id : Nat) : (goOn c id).Obeys p := by
  unfold goOn
  refine .bind (.resume _ _) fun r => ?_
  split
  · exact .pure _
  · refine .bind (.inquire _) fun status => ?_
    split
    · refine .bind (.close _) fun r => ?_
      split
      all_goals
        refine .bind (.pure _) fun e => ?_
        dsimp only
        split
        · exact .failAt _ _
        · exact .raise _
    · refine .bind (.pure _) fun e => ?_
      dsimp only
      split
      · exact .failAt _ _
      · exact .raise _

theorem run_obeys (hp : p.Stable) (f : CoroutineFn) (c : Call) : (f.run c).Obeys p := by
  cases f <;> unfold run <;> dsimp only <;> grind

end CoroutineFn

/-! ### Files -/

namespace IoFn

@[grind ←]
theorem file_obeys (c : Call) (n : Nat) : (file c n).Obeys p := by
  unfold file
  grind

@[grind ←]
theorem cannotOpen_obeys (c : Call) (name : ByteArray) : (cannotOpen c name : Task α).Obeys p :=
  .failAt _ _

@[grind ←]
theorem readEmpty_obeys (c : Call) (n : Nat) : (readEmpty c n).Obeys p := by
  unfold readEmpty
  grind

@[grind ←]
theorem readArgs_obeys (c : Call) (fuel n : Nat) : (readArgs c fuel n).Obeys p := by
  induction fuel generalizing n with
  | zero => exact .pure _
  | succ fuel ih =>
    unfold readArgs
    grind

@[grind ←]
theorem readFrom_obeys (c : Call) (id n : Nat) : (readFrom c id n).Obeys p := by
  unfold readFrom
  grind

@[grind ←]
theorem writeArgs_obeys {c : Call} {id : Nat} {result : Value}
    (h : ∀ s, p.allows (.spill (if id == 2 then .err else .out) s)) (fuel n : Nat) :
    (writeArgs c id result fuel n).Obeys p := by
  induction fuel generalizing n with
  | zero => exact .pure _
  | succ fuel ih =>
    unfold writeArgs
    refine .ite (.pure _) (.bind (c.string_obeys n) fun s => .ite (.pure _) ?_)
    exact .bind (.ask (h s)) fun _ => ih _

theorem run_obeys (hp : p.Stable) {f : IoFn} (h : ∀ r, f.MayAsk r → p.allows r) (c : Call) :
    (f.run c).Obeys p := by
  cases f <;> unfold run <;> dsimp only
  case write => exact writeArgs_obeys (fun s => h (.spill .out s) rfl) _ _
  case fileWrite => exact .bind (file_obeys c 1) fun _ => writeArgs_obeys (fun _ => h _ trivial) _ _
  all_goals grind

end IoFn

/-! ### Numbers -/

namespace MathFn

@[grind ←]
theorem extreme_obeys (c : Call) (better : Value → Value → Bool) (n : Nat) (best : Value) (i : Nat) :
    (extreme c better n best i).Obeys p := by
  induction n generalizing best i with
  | zero => exact .pure _
  | succ n ih =>
    unfold extreme
    grind

theorem run_obeys (hp : p.Stable) {f : MathFn} (h : ∀ r, f.MayAsk r → p.allows r) (c : Call) :
    (f.run c).Obeys p := by
  cases f <;> unfold run <;> dsimp only
  case random =>
    have hdraw (g : Mem → UInt64 × (UInt64 × UInt64 × UInt64 × UInt64)) :
        (change fun m => ((g m).1, { m with random := (g m).2 })).Obeys p :=
      .change fun m hm => hp.random m _ hm
    refine .bind (hdraw fun m => Random.next m.random) fun x => ?_
    split
    · exact .pure _
    · refine .bind (c.int_obeys _) fun up => .ite (.pure _) (.guard (c.failArg_obeys _ _) fun _ => ?_)
      exact .bind (hdraw fun m => Random.project _ 10000 x m.random) fun _ => .pure _
    · refine .bind (c.int_obeys _) fun low => .bind (c.int_obeys _) fun up =>
        .guard (c.failArg_obeys _ _) fun _ => ?_
      exact .bind (hdraw fun m => Random.project _ 10000 x m.random) fun _ => .pure _
    · exact c.fail_obeys _
  case randomseed =>
    have hseed (r : UInt64 × UInt64 × UInt64 × UInt64) (vs : List Value) :
        (do update fun m => { m with random := r }; return vs : Task (List Value)).Obeys p :=
      .bind (.update fun m hm => hp.random m r hm) fun _ => .pure _
    refine .ite (.bind (.ask (h _ trivial)) fun t => hseed _ _) ?_
    split
    · split
      all_goals exact .bind (.pure _) fun a => .bind (c.intOr_obeys _ _) fun b => hseed _ _
    · exact .bind (c.int_obeys _) fun a => .bind (.pure _) fun a => .bind (c.intOr_obeys _ _) fun b => hseed _ _
  all_goals grind

end MathFn

namespace Utf8Fn

theorem run_obeys (hp : p.Stable) (f : Utf8Fn) (c : Call) : (f.run c).Obeys p := by
  cases f <;> unfold run <;> dsimp only <;> grind

end Utf8Fn

/-! ### Basic functions -/

namespace BasicFn

@[grind ←]
theorem raiseAt_obeys (c : Call) (e : Value) (level : Int) : (raiseAt c e level : Task α).Obeys p := by
  unfold raiseAt
  split
  · exact .ite (.raise _)
      (.ite (.bind (.pure _) fun _ => .failAt _ _) (.bind (.inquire _) fun _ => .failAt _ _))
  · exact .raise _

@[grind ←]
theorem enclose_obeys (hp : p.Stable) (f : Proto) (env : Value) : (enclose f env).Obeys p :=
  .change fun m hm => hp.newFunc _ _ (hp.cells m _ hm)

@[grind ←]
theorem sourceFrom_obeys (c : Call) (f : Value) : (sourceFrom c f).Obeys p := by
  unfold sourceFrom
  refine .bind (.protectValues (.bind (.loop fun state => ?_) fun flow => ?_)) fun r => ?_
  · refine .bind (.callOne _ _ _) fun v => ?_
    split
    · exact .pure _
    · split
      · exact .ite (.pure _) (.pure _)
      · exact c.fail_obeys _
  · split <;> exact .pure _
  · split <;> exact .pure _

@[grind ←]
theorem loadChunk_obeys (hp : p.Stable) (c : Call) : (loadChunk c).Obeys p := by
  unfold loadChunk
  refine .bind (c.stringOr_obeys 3 _) fun mode => ?_
  dsimp only
  split
  · refine .bind (c.stringOr_obeys _ _) fun _ => ?_
    split
    · exact .pure _
    · exact .either (.pure _) (.read _) fun _ => .bind (enclose_obeys hp _ _) fun _ => .pure _
  · refine .bind (c.stringOr_obeys _ _) fun name => .bind (c.function_obeys _) fun f => 
      .bind (sourceFrom_obeys c f) fun r => ?_
    split
    · split
      · exact .pure _
      · exact .either (.pure _) (.read _) fun _ => .bind (enclose_obeys hp _ _) fun _ => .pure _
    · exact .pure _

@[grind ←]
theorem loadModule_obeys (hp : p.Stable) (c : Call) : (loadModule c).Obeys p := by
  unfold loadModule
  refine .bind (c.string_obeys 1) fun name => .bind (.read _) fun package => .bind (.read _) fun loaded =>
    .bind (.index _ _ _ _) fun found => .ite (.pure _) (.bind (.read _) fun preload => ?_)
  split
  all_goals
    refine .bind (by first | exact .index _ _ _ _ | exact .pure _) fun loader => ?_
    dsimp only
    split
    · refine .bind (.callOne _ _ _) fun r => .guard (.setIndex hp _ _ _ _ _) fun _ => ?_
      grind
    · exact .failAt _ _

@[grind ←]
theorem collect_obeys (hp : p.Stable) (c : Call) : (collect c).Obeys p := by
  unfold collect
  refine .bind (c.choice_obeys 1 _ _) fun word => .bind (.read _) fun old => ?_
  have hset (f : Mem → Collector) : (update fun m => { m with collector := f m }).Obeys p :=
    .update fun m hm => hp.collector m _ hm
  split
  · exact .bind (hset fun m => { m.collector with running := false }) fun _ => .pure _
  · exact .bind (hset fun m => { m.collector with running := true }) fun _ => .pure _
  · exact .bind (.read _) fun _ => .pure _
  · exact .bind (c.intOr_obeys _ _) fun _ => .pure _
  · exact .bind (c.intOr_obeys _ _) fun n =>
      .bind (hset fun m => { m.collector with pause := n }) fun _ => .pure _
  · exact .bind (c.intOr_obeys _ _) fun n =>
      .bind (hset fun m => { m.collector with pace := n }) fun _ => .pure _
  · exact .pure _
  · exact .bind (hset fun m => { m.collector with generational := true }) fun _ => .pure _
  · exact .bind (hset fun m => { m.collector with generational := false }) fun _ => .pure _
  · exact .pure _

@[grind ←]
theorem lineOf_obeys (c : Call) (first : Bool) (vs : List Value) : (lineOf c first vs).Obeys p := by
  induction vs generalizing first with
  | nil => exact .pure _
  | cons v vs ih =>
    unfold lineOf
    grind

theorem run_obeys (hp : p.Stable) {f : BasicFn} (h : ∀ r, f.MayAsk r → p.allows r) (c : Call) :
    (f.run c).Obeys p := by
  cases f <;> unfold run <;> dsimp only
  case print =>
    exact .bind (lineOf_obeys c true _) fun s => .bind (.ask (h _ rfl)) fun _ => .pure _
  case warn =>
    refine .bind (c.string_obeys 1) fun first => .bind (.mapM _ fun _ => c.string_obeys _) fun more => ?_
    refine .ite (.bind (.update fun m hm => ?_) fun _ => .pure _) (.bind (.read _) fun on => ?_)
    · split
      · exact hp.warnings m _ hm
      · split
        · exact hp.warnings m _ hm
        · exact hm
    · exact .ite (.bind (.ask (h _ rfl)) fun _ => .pure _) (.pure _)
  case setmetatable =>
    refine .bind (c.table_obeys 1) fun id => ?_
    have hset (mark : Option Nat) :
        (update fun m => m.modifyTable id fun t => { t with metatable := mark }).Obeys p :=
      .update fun m hm => hp.metatable m id mark hm
    have hrest (mark : Option Nat) := Obeys.bind (.read fun m => m.metamethod (.table id) "__metatable") fun guarded =>
      .guard (c := !guarded.isNil) (c.fail_obeys "cannot change a protected metatable") fun _ =>
        .bind (hset mark) fun _ => .pure [Value.table id]
    split
    · exact .bind (.pure _) hrest
    · exact .either (.pure _) (c.failType_obeys _ _) hrest
    · exact .bind (c.failType_obeys _ _) hrest
  all_goals grind

end BasicFn

/-! ### Tables -/

namespace TableFn

@[grind ←]
theorem at_obeys (t : Value) (i : Int) : (at_ t i).Obeys p := .index _ _ _ _

@[grind ←]
theorem put_obeys (hp : p.Stable) (t : Value) (i : Int) (v : Value) : (put t i v).Obeys p := .setIndex hp _ _ _ _ _

@[grind ←]
theorem lengthOf_obeys (c : Call) (t : Value) : (lengthOf c t).Obeys p := by
  unfold lengthOf
  grind

@[grind ←]
theorem tableLike_obeys (c : Call) (n : Nat) (events : List String) : (tableLike c n events).Obeys p := by
  unfold tableLike
  grind

@[grind ←]
theorem values_obeys (t : Value) (n : Nat) (i : Int) : (values t n i).Obeys p := by
  induction n generalizing i with
  | zero => exact .pure _
  | succ n ih =>
    unfold values
    grind

@[grind ←]
theorem plain_obeys (v : Value) : (plain? v).Obeys p := by
  unfold plain?
  grind

@[grind ←]
theorem items_obeys (v : Value) (n : Nat) : (items v n).Obeys p := by
  unfold items
  grind

@[grind ←]
theorem copyUp_obeys (hp : p.Stable) (a b : Value) (n : Nat) (i j : Int) : (copyUp a b n i j).Obeys p := by
  induction n generalizing i j with
  | zero => exact .pure _
  | succ n ih =>
    unfold copyUp
    grind

@[grind ←]
theorem copyDown_obeys (hp : p.Stable) (a b : Value) (n : Nat) (i j : Int) : (copyDown a b n i j).Obeys p := by
  induction n generalizing i j with
  | zero => exact .pure _
  | succ n ih =>
    unfold copyDown
    grind

section Sorting

variable {c : Call} {lt : Value → Value → Task Bool} (h : ∀ x y, (lt x y).Obeys p)

include h

@[grind ←]
theorem climb_obeys (a : Array Value) (pivot : Value) (up fuel i : Nat) :
    (climb c lt a pivot up fuel i).Obeys p := by
  induction fuel generalizing i with
  | zero => exact .pure _
  | succ fuel ih =>
    unfold climb
    grind

@[grind ←]
theorem descend_obeys (a : Array Value) (pivot : Value) (i fuel j : Nat) :
    (descend c lt a pivot i fuel j).Obeys p := by
  induction fuel generalizing j with
  | zero => exact .pure _
  | succ fuel ih =>
    unfold descend
    grind

@[grind ←]
theorem partition_obeys (pivot : Value) (up fuel : Nat) (a : Array Value) (i j : Nat) :
    (partition c lt pivot up fuel a i j).Obeys p := by
  induction fuel generalizing a i j with
  | zero => exact .pure _
  | succ fuel ih =>
    unfold partition
    grind

@[grind ←]
theorem settle_obeys (a : Array Value) (lo mid up : Nat) : (settle lt a lo mid up).Obeys p := by
  unfold settle
  grind

@[grind ←]
theorem sortPart_obeys (fuel : Nat) (a : Array Value) (lo up : Nat) :
    (sortPart c lt fuel a lo up).Obeys p := by
  induction fuel generalizing a lo up with
  | zero => exact .pure _
  | succ fuel ih =>
    unfold sortPart
    grind

end Sorting

@[grind ←]
theorem putAll_obeys (hp : p.Stable) (t : Value) (vs : List Value) (i : Int) : (putAll t vs i).Obeys p := by
  induction vs generalizing i with
  | nil => exact .pure _
  | cons v vs ih =>
    unfold putAll
    grind

theorem run_obeys (hp : p.Stable) (f : TableFn) (c : Call) : (f.run c).Obeys p := by
  cases f <;> unfold run <;> dsimp only
  case concat =>
    refine .bind (tableLike_obeys c _ _) fun t => .bind (lengthOf_obeys c t) fun n =>
      .bind (c.stringOr_obeys _ _) fun sep => .bind (c.intOr_obeys _ _) fun first =>
        .bind (c.intOr_obeys _ _) fun last => ?_
    refine .either (items_obeys _ _) (values_obeys _ _ _) fun vs => ?_
    refine .bind (.mapM _ fun e => ?_) fun parts => ?_
    all_goals grind
  case move =>
    refine .bind (tableLike_obeys c _ _) fun a => .bind (c.int_obeys _) fun f =>
      .bind (c.int_obeys _) fun e => .bind (c.int_obeys _) fun t => ?_
    refine .either (tableLike_obeys c _ _) (tableLike_obeys c _ _) fun b => ?_
    refine .ite (.guard (c.failArg_obeys _ _) fun _ => .guard (c.failArg_obeys _ _) fun _ => ?_) (.pure _)
    exact .ite (.bind (copyUp_obeys hp _ _ _ _ _) fun _ => .pure _) (.bind (copyDown_obeys hp _ _ _ _ _) fun _ => .pure _)
  case sort =>
    refine .bind (tableLike_obeys c _ _) fun t => .bind (lengthOf_obeys c t) fun n => .ite (.guard (c.failArg_obeys _ _) fun _ => ?_) (.pure _)
    have hlt (x y : Value) : (if c.lacks 2 then below none x y
        else do return (← callOne (c.arg 2) [x, y] c.inner).truthy : Task Bool).Obeys p :=
      .ite (.below _ _ _) (.bind (.callOne _ _ _) fun _ => .pure _)
    refine .ite ?sort (.bind (c.function_obeys _) fun _ => ?sort)
    refine .bind (items_obeys _ _) fun vs => .bind (sortPart_obeys hlt _ _ _ _) fun sorted => .bind (plain_obeys t) fun plain => ?_
    split
    · exact .bind (.update fun m hm => hp.sets hm _ sorted.toList.zipIdx fun _ => Value.isKey_int _) fun _ => .pure _
    · exact .bind (putAll_obeys hp _ _ _) fun _ => .pure _
  all_goals grind

end TableFn
/-! ### The system -/

namespace OsFn

@[grind ←]
theorem format_obeys (c : Call) (m : Moment) (s : List UInt8) : (format c m s).Obeys p := by
  fun_induction format c m s <;> grind

@[grind ←]
theorem field_obeys (c : Call) (t : Value) (name : String) (default : Option Int) :
    (field c t name default).Obeys p := by
  unfold field
  grind

theorem run_obeys (hp : p.Stable) {f : OsFn} (h : ∀ r, f.MayAsk r → p.allows r) (c : Call) :
    (f.run c).Obeys p := by
  cases f <;> unfold run <;> dsimp only
  case clock => exact .bind (.ask (h _ trivial)) fun _ => .pure _
  case date =>
    refine .bind (c.stringOr_obeys _ _) fun pattern => ?_
    refine .either (.ask (h _ trivial)) (c.int_obeys _) fun t => ?_
    refine .guard (c.fail_obeys _) fun _ => ?_
    split
    · exact .bind (.newTable hp (Table.textsOnce_ofFields _)) fun _ => .pure _
    · exact .bind (format_obeys _ _ _) fun _ => .pure _
  case getenv =>
    refine .bind (c.string_obeys _) fun name => .bind (.ask (h _ trivial)) fun v => ?_
    split <;> exact .pure _
  case exit =>
    split
    · exact .bind (.pure _) fun code => .bind (.ask (h _ trivial)) fun _ => .pure _
    · exact .bind (c.intOr_obeys _ _) fun code => .bind (.ask (h _ trivial)) fun _ => .pure _
  case time =>
    refine .ite (.bind (.ask (h _ trivial)) fun t => .pure _) ?_
    refine .bind (c.table_obeys _) fun id => .bind (field_obeys c _ _ _) fun year => .bind (field_obeys c _ _ _) fun month =>
      .bind (field_obeys c _ _ _) fun day => .bind (field_obeys c _ _ _) fun hour => .bind (field_obeys c _ _ _) fun minute =>
      .bind (field_obeys c _ _ _) fun second => .bind (.update fun m hm => ?_) fun _ => .pure _
    simp only [Table.setText_eq]
    exact hp.sets hm id (fields _) fun _ => Value.isKey_text _
  all_goals grind

end OsFn

end LuaSession.Lua
