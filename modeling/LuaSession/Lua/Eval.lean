import LuaSession.Lua.Operators

/-!
# Evaluation

What programs mean: an expression is a task that gives values, a statement a task that says how it
ends. Both are defined along the syntax; what may go on without end, calls and loops, is a step of
the machine.
-/

namespace LuaSession.Lua

namespace Task

/-- The place of a line in the running function. -/
def here (line : Nat) : Task Origin := read fun m => some ⟨m.act.chunk, line⟩

/-- The first `n` values, with nil for those that are missing. -/
def adjust : (n : Nat) → List Value → List Value
  | 0, _ => []
  | n + 1, v :: vs => v :: adjust n vs
  | n + 1, [] => .nil :: adjust n []

/-- Begins the life of variables, with nil for missing values. -/
def declareSlots : List Nat → List Value → Task Unit
  | [], _ => pure ()
  | i :: is, vs => do
    update fun m => m.declareSlot i (firstOf vs)
    declareSlots is (vs.drop 1)

/-- What a target of an assignment is once its parts are evaluated. -/
inductive Dest
  | var (place : Place)
  | index (origin : Origin) (table key : Value) (label : Option Label)

/-- Assigns to a target. -/
def store (d : Dest) (v : Value) : Task Unit :=
  match d with
  | .var place => update fun m => m.assign place v
  | .index origin t k label => setIndex origin t k v label

/-- Assigns to targets, the last one first. -/
def storeAll : List Dest → List Value → Task Unit
  | [], _ => pure ()
  | d :: ds, vs => do
    storeAll ds (vs.drop 1)
    store d (firstOf vs)

/-- Puts list items into a table from a key on. -/
def putItems (t : Table) : (key : Nat) → List Value → Table
  | _, [] => t
  | n, v :: vs => putItems (t.set (.int (Int64.ofNat n)) v) (n + 1) vs

/-- The result of an operator on numbers or strings that needs no metamethod, if there is one. -/
def quick? (op : Binary) (a b : Value) : Option Value :=
  match op with
  | .lt => (below? a b).map .bool
  | .le => (upTo? a b).map .bool
  | .gt => (below? b a).map .bool
  | .ge => (upTo? b a).map .bool
  | .concat | .eq | .ne => none
  | _ =>
    match computeNumbers op a b with
    | some (.ok v) => some v
    | _ => none

/-! ### Loops over numbers -/

/-- Raises that a value of a loop is no number. -/
def failFor {α : Type} (origin : Origin) (what : String) (v : Value) : Task α := do
  let kind ← read (·.typeName v)
  failAt origin (joinBytes
    [bytes ("bad 'for' " ++ what ++ " (number expected, got "), kind, bytes ")"])

/-- The limit of a loop over integers, or nothing if the loop has no round. -/
def forLimit (origin : Origin) (start step : Int64) (limit : Value) : Task (Option Int64) := do
  let ends (n : Int64) : Option Int64 :=
    if (if step > 0 then start > n else start < n) then none else some n
  match toNumber? limit with
  | some (.int n) => return ends n
  | some (.float x) =>
    match (if step < 0 then ceilInt? x else floorInt? x) with
    | some n => return ends n
    | none =>
      if x > 0.0 then
        return if step < 0 then none else ends Int64.maxValue
      else
        return if step > 0 then none else ends Int64.minValue
  | _ => failFor origin "limit" limit

/-- How many rounds follow the first of a loop over integers. -/
def forCount (start limit step : Int64) : UInt64 :=
  if step > 0 then (limit.toUInt64 - start.toUInt64) / step.toUInt64
  else (start.toUInt64 - limit.toUInt64) / ((-(step + 1)).toUInt64 + 1)

/-- A loop over numbers; `round` gets the number of each round. -/
def forRange (origin : Origin) (start limit step : Value) (round : Value → Task Flow) :
    Task Flow := do
  let after (next : List Value) (flow : Flow) : List Value ⊕ Flow :=
    match flow with
    | .normal => if next.isEmpty then .inr .normal else .inl next
    | .leaveLoop => .inr .normal
    | f => .inr f
  match start, step with
  | .int a, .int s =>
    if s == 0 then fail origin "'for' step is zero"
    match ← forLimit origin a s limit with
    | none => return .normal
    | some l =>
      loop [.int a, .int (Int64.ofUInt64 (forCount a l s))] fun state =>
        match state with
        | [.int i, .int n] => do
          let flow ← round (.int i)
          return after (if n == 0 then [] else [.int (i + s), .int (n - 1)]) flow
        | _ => return .inr .normal
  | _, _ =>
    match toFloat? limit with
    | none => failFor origin "limit" limit
    | some l =>
      match toFloat? step with
      | none => failFor origin "step" step
      | some s =>
        match toFloat? start with
        | none => failFor origin "initial value" start
        | some a =>
          if s == 0.0 then fail origin "'for' step is zero"
          let goes (x : Float) : Bool := if s > 0.0 then x ≤ l else l ≤ x
          if !goes a then return .normal
          loop [.float a] fun state =>
            match state with
            | [.float x] => do
              let flow ← round (.float x)
              return after (if goes (x + s) then [.float (x + s)] else []) flow
            | _ => return .inr .normal

/-! ### Variables that are closed -/

/-- Runs a part and then closes a value: its metamethod gets the error that ended the part, if one
did. -/
def closing (origin : Origin) (name : String) (v : Value) (part : Task Flow) : Task Flow := do
  if !v.truthy then part
  else
    let tm ← read (·.metamethod v "__close")
    if tm.isNil then fail origin s!"variable '{name}' got a non-closable value"
    let close (e : Value) : Task Unit := do
      let tm ← read (·.metamethod v "__close")
      let _ ← call tm [v, e] { metaSite origin "close" with fixed := false }
    match ← protect .tidy part with
    | .ok flow => close .nil; return flow
    | .error e => close e; rethrow e

end Task

open LuaSession.Lua.Task

mutual

/-- The value of an expression. -/
def evalExpr : Expr → Task Value
  | .nil => pure .nil
  | .bool b => pure (.bool b)
  | .int n => pure (.int n)
  | .float x => pure (.float x)
  | .str s => pure (.str s)
  | .varargs => read fun m => firstOf m.act.more
  | .var place _ => read (·.lookup place)
  | .index t k line => do
    let tv ← evalExpr t
    let kv ← evalExpr k
    index (← here line) tv kv t.label?
  | .call f args line => do
    let fv ← evalExpr f
    let vs ← evalList args
    callOne fv vs { spot := ← here line, label := f.label? }
  | .invoke o name args line => do
    let ov ← evalExpr o
    let origin ← here line
    let fv ← index origin ov (.text name) o.label?
    let vs ← evalList args
    callOne fv (ov :: vs) { spot := origin, label := some ("method", bytes name) }
  | .function f => change fun m =>
    let cells := (f.captures.map m.cellOf).toArray
    let (id, m) := m.newFunc (.closure f cells)
    (.func id, m)
  | .unary op a line => do
    let v ← evalExpr a
    unary (← here line) op v a.label?
  | .not a => do return .bool !(← evalExpr a).truthy
  | .binary op a b line => do
    let va ← evalExpr a
    let vb ← evalExpr b
    match quick? op va vb with
    | some v => return v
    | none => binary (← here line) op va vb a.label? b.label?
  | .and a b => do
    let v ← evalExpr a
    if v.truthy then evalExpr b else return v
  | .or a b => do
    let v ← evalExpr a
    if v.truthy then return v else evalExpr b
  | .paren a => evalExpr a
  | .construct fields line => do
    let pairs := fields.countP fun f => match f with
      | .pair .. => true
      | .item _ => false
    let id ← change fun m => m.newTable (Table.sized (fields.length - pairs) pairs)
    let items ← evalFields id line fields
    update fun m => m.modifyTable id fun t => putItems t 1 items
    return .table id
termination_by e => 2 * sizeOf e

/-- The values of an expression that may have any number of them. -/
def evalOpen : Expr → Task (List Value)
  | .varargs => read (·.act.more)
  | .call f args line => do
    let fv ← evalExpr f
    let vs ← evalList args
    call fv vs { spot := ← here line, label := f.label? }
  | .invoke o name args line => do
    let ov ← evalExpr o
    let origin ← here line
    let fv ← index origin ov (.text name) o.label?
    let vs ← evalList args
    call fv (ov :: vs) { spot := origin, label := some ("method", bytes name) }
  | e => do return [← evalExpr e]
termination_by e => 2 * sizeOf e + 1

/-- The values of several expressions; the last may give any number of values. -/
def evalList : List Expr → Task (List Value)
  | [] => pure []
  | [e] => evalOpen e
  | e :: es => do
    let v ← evalExpr e
    let vs ← evalList es
    return v :: vs
termination_by es => 2 * sizeOf es

/-- Sets the fields of a table that have keys, and gives the list items among the fields. -/
def evalFields (id line : Nat) : List Field → Task (List Value)
  | [] => pure []
  | [.item e] => evalOpen e
  | .item e :: rest => do
    let v ← evalExpr e
    let vs ← evalFields id line rest
    return v :: vs
  | .pair k e :: rest => do
    let kv ← evalExpr k
    let v ← evalExpr e
    setRaw (← here line) id kv v
    evalFields id line rest
termination_by fields => 2 * sizeOf fields

/-- The parts of the targets of an assignment. -/
def evalTargets : List Target → Task (List Dest)
  | [] => pure []
  | .var place :: rest => do return .var place :: (← evalTargets rest)
  | .index t k line :: rest => do
    let tv ← evalExpr t
    let kv ← evalExpr k
    let origin ← here line
    return .index origin tv kv t.label? :: (← evalTargets rest)
termination_by targets => 2 * sizeOf targets

/-- Runs a statement. -/
def execStat : Stat → Task Flow
  | .call e => do
    let _ ← evalOpen e
    return .normal
  | .assign targets values => do
    let ds ← evalTargets targets
    let vs ← evalList values
    storeAll ds vs
    return .normal
  | .declare slots values => do
    let vs ← evalList values
    declareSlots slots vs
    return .normal
  | .closing slot name line rest => do
    let v ← read (·.slotValue slot)
    closing (← here line) name v (execBlock rest)
  | .scope body => execBlock body
  | .whileDo c body => loop [] fun _ => do
    if (← evalExpr c).truthy then
      match ← execBlock body with
      | .normal => return .inl []
      | .leaveLoop => return .inr .normal
      | flow => return .inr flow
    else return .inr .normal
  | .repeatUntil body c => loop [] fun _ => do
    match ← execBlock body with
    | .normal =>
      if (← evalExpr c).truthy then return .inr .normal else return .inl []
    | .leaveLoop => return .inr .normal
    | flow => return .inr flow
  | .ifElse c yes no => do
    if (← evalExpr c).truthy then execBlock yes else execBlock no
  | .forRange slot start limit step body line => do
    let a ← evalExpr start
    let l ← evalExpr limit
    let s ← evalExpr step
    forRange (← here line) a l s fun v => do
      update fun m => m.declareSlot slot v
      execBlock body
  | .forIn slots values body line => do
    let vs := adjust 4 (← evalList values)
    let origin ← here line
    let site : Site := { spot := origin, label := some ("for iterator", bytes "for iterator") }
    match vs with
    | [f, s, first, last] =>
      closing origin "(for state)" last do
        loop [first] fun state => do
          let rs ← call f [s, firstOf state] site
          match firstOf rs with
          | .nil => return .inr .normal
          | v =>
            declareSlots slots rs
            match ← execBlock body with
            | .normal => return .inl [v]
            | .leaveLoop => return .inr .normal
            | flow => return .inr flow
    | _ => return .normal
  | .leaveLoop => return .leaveLoop
  | .goto label => return .goto label
  | .giveBack values => do return .give (← evalList values)
  | .giveCall f args line => do
    let fv ← evalExpr f
    let vs ← evalList args
    return .giveCall fv vs { spot := ← here line, label := f.label? }
  | .giveInvoke o name args line => do
    let ov ← evalExpr o
    let origin ← here line
    let fv ← index origin ov (.text name) o.label?
    let vs ← evalList args
    return .giveCall fv (ov :: vs) { spot := origin, label := some ("method", bytes name) }
termination_by s => 2 * sizeOf s

/-- Runs the statements of a block after the first `skip` of them. -/
def execFrom : List Stat → (skip : Nat) → Task Flow
  | [], _ => pure .normal
  | _ :: rest, n + 1 => execFrom rest n
  | s :: rest, 0 => do
    match ← execStat s with
    | .normal => execFrom rest 0
    | flow => return flow
termination_by stats => 2 * sizeOf stats

/-- Runs a block. A jump to one of its labels goes on there. -/
def execBlock : Block → Task Flow
  | .mk stats [] => execFrom stats 0
  | .mk stats labels => loop [.int 0] fun state => do
    let skip := match state with
      | [.int n] => n.toInt.toNat
      | _ => 0
    match ← execFrom stats skip with
    | .goto label =>
      match labels.find? (·.1 == label) with
      | some (_, n) => return .inl [.int (Int64.ofNat n)]
      | none => return .inr (.goto label)
    | flow => return .inr flow
termination_by b => 2 * sizeOf b

end

/-- The slots of a function that is called with some arguments: those of its parameters hold them. -/
def Proto.run : Proto → Task Flow
  | .mk _ _ _ _ _ body _ => execBlock body

end LuaSession.Lua
