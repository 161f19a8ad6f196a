import LuaSession.Lua.Scope

/-!
# Reading programs

`readChunk` reads a source text as the body of a function that takes any arguments and captures one
variable, `_ENV`. Variables are resolved while reading. The first fault ends the reading; its message
begins with the chunk and the line, and quotes what stands there if the text itself is at fault.
-/

namespace LuaSession.Lua

/-- Where a reader of a program is. -/
structure ReaderState where
  lexemes : List Lexeme
  scopes : List FunctionScope
  depth : Nat
  chunk : ByteArray

/-- A reader of a part of a program. -/
abbrev Reader (α : Type) := StateT ReaderState (Except SourceFault) α

namespace Reader

/-- How deep constructs may be nested. -/
def depthLimit : Nat := 200

/-- How many variables can be seen at a time. -/
def variableLimit : Nat := 200

/-! ### Lexemes -/

/-- The lexeme that is next. -/
def current : Reader Lexeme := do
  return ((← get).lexemes.head?).getD ⟨.eof, 0, Token.eofSpelling⟩

/-- The token that is next. -/
def token : Reader Token := return (← current).token

/-- The line of what is next. -/
def line : Reader Nat := return (← current).line

/-- A message with its place. -/
def placed (chunk : ByteArray) (line : Nat) (message : ByteArray) : ByteArray :=
  joinBytes [chunk, bytes ":", bytesOfChars (Number.natChars line), bytes ": ", message]

/-- Fails at a lexeme. -/
def failAt {α : Type} (l : Lexeme) (message : String) : Reader α := do
  throw (.malformed (placed (← get).chunk l.line (bytes (message ++ " near ") ++ l.spelling)))

/-- Fails at what is next. -/
def fail {α : Type} (message : String) : Reader α := do
  failAt (← current) message

/-- Fails because of what the program says, without quoting it. -/
def reject {α : Type} (message : String) : Reader α := do
  throw (.malformed (placed (← get).chunk (← line) (bytes message)))

/-- Raises the fault of a lexeme. -/
def demandSound : Option Lexeme → Reader Unit
  | some l =>
    match l.token with
    | .fault message => failAt l message
    | _ => pure ()
  | none => pure ()

/-- Goes on to the next lexeme. -/
def advance : Reader Unit := do
  let rest := (← get).lexemes.drop 1
  demandSound rest.head?
  modify fun s => { s with lexemes := rest }

/-- The token after the next. -/
def second : Reader Token := do
  let l := ((← get).lexemes.drop 1).head?
  demandSound l
  return (l.map (·.token)).getD .eof

/-- Whether a symbol is next. -/
def atSymbol (s : String) : Reader Bool := do
  match ← token with
  | .symbol t => return s == t
  | _ => return false

/-- Whether a reserved word is next. -/
def atWord (w : String) : Reader Bool := do
  match ← token with
  | .reserved t => return w == t
  | _ => return false

/-- Takes a symbol if it is next. -/
def takeSymbol (s : String) : Reader Bool := do
  if ← atSymbol s then advance; return true
  else return false

/-- Takes a reserved word if it is next. -/
def takeWord (w : String) : Reader Bool := do
  if ← atWord w then advance; return true
  else return false

/-- Takes a symbol, which must be next. -/
def demandSymbol (s : String) : Reader Unit := do
  unless ← takeSymbol s do fail s!"'{s}' expected"

/-- Takes a reserved word, which must be next. -/
def demandWord (w : String) : Reader Unit := do
  unless ← takeWord w do fail s!"'{w}' expected"

/-- Fails because `what` does not end what `opener` began on a line. -/
def failToClose {α : Type} (what opener : String) (start : Nat) : Reader α := do
  if (← line) == start then fail s!"'{what}' expected"
  else
    let n := String.ofList (Number.natChars start)
    fail s!"'{what}' expected (to close '{opener}' at line {n})"

/-- Takes the symbol that closes what was opened on a line. -/
def closeSymbol (what opener : String) (start : Nat) : Reader Unit := do
  unless ← takeSymbol what do failToClose what opener start

/-- Takes the word that closes what was opened on a line. -/
def closeWord (what opener : String) (start : Nat) : Reader Unit := do
  unless ← takeWord what do failToClose what opener start

/-- Takes a name. -/
def name : Reader String := do
  match ← token with
  | .name n => advance; return n
  | _ => fail "<name> expected"

/-- Reads something one level deeper. -/
def nested {α : Type} (r : Reader α) : Reader α := do
  let depth := (← get).depth + 1
  if depthLimit ≤ depth then throw .tooDeep
  modify fun s => { s with depth := depth }
  let a ← r
  modify fun s => { s with depth := depth - 1 }
  return a

/-! ### Scopes -/

/-- The innermost function. -/
def scope : Reader FunctionScope := do
  return ((← get).scopes.head?).getD ⟨0, false, [], 0, #[], #[], []⟩

/-- Replaces the innermost function. -/
def setScope (f : FunctionScope) : Reader Unit :=
  modify fun s => { s with scopes := f :: s.scopes.drop 1 }

/-- Declares a variable: it can be seen from here on. -/
def declare (n : String) (access : Access) : Reader Nat := do
  let f ← scope
  if variableLimit ≤ f.level then
    let place :=
      if f.line == 0 then "main function"
      else "function at line " ++ String.ofList (Number.natChars f.line)
    fail s!"too many local variables (limit is 200) in {place}"
  let (slot, f) := f.declare n access
  setScope f
  return slot

/-- Declares variables without an own use of the program. -/
def declareHidden : Nat → Reader Unit
  | 0 => pure ()
  | n + 1 => do
    let _ ← declare "(for state)" .free
    declareHidden n

/-- Declares several variables. -/
def declareAll : List (String × Access) → Reader (List Nat)
  | [] => return []
  | (n, access) :: rest => do
    let slot ← declare n access
    return slot :: (← declareAll rest)

/-- Finds a variable. -/
def find (n : String) : Reader (Option (Place × Access)) := do
  match resolve n (← get).scopes with
  | some (place, access, scopes) =>
    modify fun s => { s with scopes := scopes }
    return some (place, access)
  | none => return none

/-- The variable of a name, or the field of `_ENV`. -/
def named (n : String) : Reader Expr := do
  match ← find n with
  | some (place, _) => return .var place n
  | none =>
    let at_ ← line
    match ← find "_ENV" with
    | some (place, _) => return .index (.var place "_ENV") (.str (bytes n)) at_
    | none => return .nil

/-- Refuses to assign to a variable that must not change. -/
def demandAssignable (e : Expr) : Reader Unit := do
  match e with
  | .var _ n =>
    match ← find n with
    | some (_, .free) => pure ()
    | some _ => reject s!"attempt to assign to const variable '{n}'"
    | none => pure ()
  | _ => pure ()

/-! ### Labels and jumps -/

/-- How the jump out of a loop is called among the jumps. -/
def leaveName : String := "break"

/-- Refuses a jump into the scope of a variable. -/
def rejectEntry {α : Type} (jump : Mark) : Reader α := do
  let f ← scope
  let entered := (f.vars.reverse.drop jump.level).head?
  let seen := (entered.map (·.name)).getD "?"
  let n := String.ofList (Number.natChars jump.line)
  let goal := jump.name
  reject s!"<goto {goal}> at line {n} jumps into the scope of local '{seen}'"

/-- Settles the jumps of the innermost block to a label that is seen at a level. -/
def settle (n : String) (level : Nat) : Reader Unit := do
  let f ← scope
  let jumps := (f.blocks.head?.map (·.jumps)).getD []
  match jumps.find? fun j => j.name == n && j.level < level with
  | some j => rejectEntry j
  | none =>
    setScope (f.modifyBlock fun b => { b with jumps := b.jumps.filter (·.name != n) })

/-- Adds a jump whose label is still to come. -/
def addJump (n : String) (start : Nat) : Reader Unit := do
  let f ← scope
  setScope (f.modifyBlock fun b => { b with jumps := b.jumps ++ [⟨n, start, f.level⟩] })

/-- Adds a label; one at the end of its block is seen as if the block's variables were gone. -/
def addLabel (n : String) (start : Nat) (isLast : Bool) : Reader Unit := do
  let f ← scope
  match f.label? n with
  | some l =>
    let at_ := String.ofList (Number.natChars l.line)
    reject s!"label '{n}' already defined on line {at_}"
  | none =>
    let level := if isLast then (f.blocks.head?.map (·.level)).getD 0 else f.level
    setScope (f.modifyBlock fun b => { b with labels := b.labels ++ [⟨n, start, level⟩] })
    settle n level

/-- Enters a block. -/
def enterBlock (isLoop : Bool) : Reader Unit := do
  let f ← scope
  setScope { f with blocks := ⟨f.level, isLoop, f.closes, [], []⟩ :: f.blocks }

/-- Fails because a jump has no label. -/
def failJump {α : Type} (j : Mark) : Reader α := do
  let n := String.ofList (Number.natChars j.line)
  let goal := j.name
  if goal == leaveName then reject s!"break outside a loop at line {n}"
  else reject s!"no visible label '{goal}' for <goto> at line {n}"

/-- Leaves a block: its variables are gone, and its open jumps become those of the block around it
or, at the end of a function, a fault. -/
def leaveBlock : Reader Unit := do
  let f ← scope
  match f.blocks with
  | [] => pure ()
  | b :: outer =>
    let f := { f with vars := f.vars.drop (f.level - b.level) }
    let jumps := if b.isLoop then b.jumps.filter (·.name != leaveName) else b.jumps
    let jumps := jumps.map fun j => { j with level := min j.level b.level }
    let f : FunctionScope := { f with blocks := outer }
    setScope (f.modifyBlock fun o => { o with jumps := o.jumps ++ jumps })
    if outer.isEmpty then
      match jumps with
      | j :: _ => failJump j
      | [] => pure ()

/-- Reads something as a block. -/
def inBlock {α : Type} (isLoop : Bool) (r : Reader α) : Reader α := do
  enterBlock isLoop
  let a ← r
  leaveBlock
  return a

/-! ### Blocks -/

/-- What is read in a block. -/
inductive Item
  | stat (s : Stat)
  | label (name : String)
  | closing (slot : Nat) (name : String) (line : Nat)

/-- Whether an item is a label. -/
def Item.label? : Item → Option String
  | .label n => some n
  | _ => none

/-- The items as a block. What follows a variable that is to be closed is a block of its own. -/
def assembleFrom : List Item → (count : Nat) → List Stat × List (String × Nat)
  | [], _ => ([], [])
  | .stat s :: rest, n =>
    let (stats, labels) := assembleFrom rest (n + 1)
    (s :: stats, labels)
  | .label l :: rest, n =>
    let (stats, labels) := assembleFrom rest n
    (stats, (l, n) :: labels)
  | .closing slot name line :: rest, _ =>
    let (stats, labels) := assembleFrom rest 0
    ([.closing slot name line (.mk stats labels)], [])

/-- The items as a block. Labels at the end belong to the whole block. -/
def assemble (items : List Item) : Block :=
  let last := items.reverse.takeWhile fun i => i.label?.isSome
  let body := items.take (items.length - last.length)
  let (stats, labels) := assembleFrom body 0
  .mk stats (labels ++ last.reverse.filterMap fun i => i.label?.map fun l => (l, stats.length))

/-- Whether a block ends here. -/
def blockEnds (withUntil : Bool) : Reader Bool := do
  match ← token with
  | .reserved w =>
    return w == "else" || w == "elseif" || w == "end" || (withUntil && w == "until")
  | .eof => return true
  | _ => return false

/-! ### Operators -/

/-- An operator between operands. -/
inductive Infix_
  | plain (op : Binary)
  | both
  | either

/-- How strongly an operator binds to its left and to its right. -/
def infixOf? : Token → Option (Infix_ × Nat × Nat)
  | .symbol s =>
    match s with
    | "+" => some (.plain .add, 10, 10)
    | "-" => some (.plain .sub, 10, 10)
    | "*" => some (.plain .mul, 11, 11)
    | "%" => some (.plain .mod, 11, 11)
    | "^" => some (.plain .pow, 14, 13)
    | "/" => some (.plain .div, 11, 11)
    | "//" => some (.plain .idiv, 11, 11)
    | "&" => some (.plain .band, 6, 6)
    | "|" => some (.plain .bor, 4, 4)
    | "~" => some (.plain .bxor, 5, 5)
    | "<<" => some (.plain .shl, 7, 7)
    | ">>" => some (.plain .shr, 7, 7)
    | ".." => some (.plain .concat, 9, 8)
    | "==" => some (.plain .eq, 3, 3)
    | "~=" => some (.plain .ne, 3, 3)
    | "<" => some (.plain .lt, 3, 3)
    | "<=" => some (.plain .le, 3, 3)
    | ">" => some (.plain .gt, 3, 3)
    | ">=" => some (.plain .ge, 3, 3)
    | _ => none
  | .reserved "and" => some (.both, 2, 2)
  | .reserved "or" => some (.either, 1, 1)
  | _ => none

/-- How strongly operators on one operand bind. -/
def unaryStrength : Nat := 12

/-- The expression of an operator on one operand, with its line. The negative of a number is one. -/
def prefixOf? : Token → Option (Nat → Expr → Expr)
  | .reserved "not" => some fun _ a => .not a
  | .symbol "-" => some fun line a =>
    match a with
    | .int n => .int (-n)
    | .float x => .float (-x)
    | e => .unary .negate e line
  | .symbol "~" => some fun line a => .unary .complement a line
  | .symbol "#" => some fun line a => .unary .length a line
  | _ => none

/-- The expression of an operator between operands. -/
def Infix_.expr (op : Infix_) (a b : Expr) (line : Nat) : Expr :=
  match op with
  | .plain op => .binary op a b line
  | .both => .and a b
  | .either => .or a b

/-- The target that an expression is, if it can be assigned to. -/
def target? : Expr → Option Target
  | .var place _ => some (.var place)
  | .index t k line => some (.index t k line)
  | _ => none

/-! ### The grammar -/

/-- The statement that gives values back: a single call is made in place of this function, unless a
variable is to be closed after it. -/
def giveBack (values : List Expr) (closes : Bool) : Stat :=
  match values with
  | [.call f args line] => if closes then .giveBack values else .giveCall f args line
  | [.invoke o m args line] => if closes then .giveBack values else .giveInvoke o m args line
  | _ => .giveBack values

/-- Marks the innermost block as one with a variable that is to be closed. -/
def markClosing : Reader Unit := do
  let f ← scope
  setScope (f.modifyBlock fun b => { b with closes := true })

/-- Reads something as the body of a function. -/
def inFunction (start : Nat) (takesMore : Bool) (r : Reader (List Nat × Block)) :
    Reader Proto := do
  modify fun s => { s with scopes := ⟨start, takesMore, [], 0, #[], #[], [⟨0, false, false, [], []⟩]⟩ :: s.scopes }
  let (params, body) ← r
  leaveBlock
  let f ← scope
  modify fun s => { s with scopes := s.scopes.drop 1 }
  return .mk params f.takesMore f.slots f.shared (f.captures.map (·.source)).toList body
    (← get).chunk

/-- The name of an attribute in angle brackets. -/
def attribute_ : Reader Access := do
  if ← takeSymbol "<" then
    let n ← name
    demandSymbol ">"
    if n == "const" then return .fixed
    else if n == "close" then return .closing
    else reject s!"unknown attribute '{n}'"
  else return .free

mutual

/-- Expressions between commas. -/
def exprs : Nat → Reader (List Expr)
  | 0 => throw .tooDeep
  | fuel + 1 => do
    let e ← expr fuel 0
    if ← takeSymbol "," then
      return e :: (← exprs fuel)
    else return [e]

/-- An expression whose operators bind more strongly than `limit`. -/
def expr : Nat → Nat → Reader Expr
  | 0, _ => throw .tooDeep
  | fuel + 1, limit => nested do
    let at_ ← line
    match prefixOf? (← token) with
    | some op =>
      advance
      operands fuel limit (op at_ (← expr fuel unaryStrength))
    | none => operands fuel limit (← simple fuel)

/-- The operators and operands after a first operand. -/
def operands : Nat → Nat → Expr → Reader Expr
  | 0, _, _ => throw .tooDeep
  | fuel + 1, limit, a => do
    match infixOf? (← token) with
    | none => return a
    | some (op, left, right) =>
      if left ≤ limit then return a
      else
        let at_ ← line
        advance
        let b ← expr fuel right
        operands fuel limit (op.expr a b at_)

/-- An expression without operators. -/
def simple : Nat → Reader Expr
  | 0 => throw .tooDeep
  | fuel + 1 => do
    match ← token with
    | .int n => advance; return .int n
    | .float x => advance; return .float x
    | .str s => advance; return .str s
    | .reserved "nil" => advance; return .nil
    | .reserved "true" => advance; return .bool true
    | .reserved "false" => advance; return .bool false
    | .symbol "..." =>
      unless (← scope).takesMore do fail "cannot use '...' outside a vararg function"
      advance
      return .varargs
    | .symbol "\x7b" => construct fuel
    | .reserved "function" =>
      let start ← line
      advance
      return .function (← body fuel false start)
    | _ => suffixed fuel

/-- A variable or an expression in parentheses, with indices and calls after it. -/
def suffixed : Nat → Reader Expr
  | 0 => throw .tooDeep
  | fuel + 1 => do
    match ← token with
    | .name n =>
      advance
      let e ← named n
      suffixes fuel e
    | .symbol "(" =>
      let start ← line
      advance
      let e ← expr fuel 0
      closeSymbol ")" "(" start
      suffixes fuel (if e.isOpen then .paren e else match e with
        | .var .. | .index .. => .paren e
        | _ => e)
    | _ => fail "unexpected symbol"

/-- The indices and calls after an expression. -/
def suffixes : Nat → Expr → Reader Expr
  | 0, _ => throw .tooDeep
  | fuel + 1, e => do
    match ← token with
    | .symbol "." =>
      advance
      let at_ ← line
      let n ← name
      suffixes fuel (.index e (.str (bytes n)) at_)
    | .symbol "[" =>
      advance
      let k ← expr fuel 0
      let at_ ← line
      demandSymbol "]"
      suffixes fuel (.index e k at_)
    | .symbol ":" =>
      advance
      let n ← name
      let at_ ← line
      let args ← arguments fuel
      suffixes fuel (.invoke e n args at_)
    | .symbol "(" | .symbol "\x7b" | .str _ =>
      let at_ ← line
      let args ← arguments fuel
      suffixes fuel (.call e args at_)
    | _ => return e

/-- The arguments of a call. -/
def arguments : Nat → Reader (List Expr)
  | 0 => throw .tooDeep
  | fuel + 1 => do
    match ← token with
    | .symbol "(" =>
      let start ← line
      advance
      if ← takeSymbol ")" then return []
      let args ← exprs fuel
      closeSymbol ")" "(" start
      return args
    | .symbol "\x7b" => return [← construct fuel]
    | .str s => advance; return [.str s]
    | _ => fail "function arguments expected"

/-- A table constructor. -/
def construct : Nat → Reader Expr
  | 0 => throw .tooDeep
  | fuel + 1 => do
    let start ← line
    demandSymbol "\x7b"
    let fields ← constructFields fuel
    closeSymbol "\x7d" "\x7b" start
    return .construct fields start

/-- The fields of a table constructor. -/
def constructFields : Nat → Reader (List Field)
  | 0 => throw .tooDeep
  | fuel + 1 => do
    if ← atSymbol "\x7d" then return []
    let field ← constructField fuel
    if ← takeSymbol "," then return field :: (← constructFields fuel)
    else if ← takeSymbol ";" then return field :: (← constructFields fuel)
    else return [field]

/-- A field of a table constructor. -/
def constructField : Nat → Reader Field
  | 0 => throw .tooDeep
  | fuel + 1 => do
    match ← token with
    | .name n =>
      match ← second with
      | .symbol "=" =>
        advance
        advance
        return .pair (.str (bytes n)) (← expr fuel 0)
      | _ => return .item (← expr fuel 0)
    | .symbol "[" =>
      advance
      let k ← expr fuel 0
      demandSymbol "]"
      demandSymbol "="
      return .pair k (← expr fuel 0)
    | _ => return .item (← expr fuel 0)

/-- The parameters of a function. -/
def parameters : Nat → Reader (List String × Bool)
  | 0 => throw .tooDeep
  | fuel + 1 => do
    match ← token with
    | .name n =>
      advance
      if ← takeSymbol "," then
        let (rest, more) ← parameters fuel
        return (n :: rest, more)
      else return ([n], false)
    | .symbol "..." => advance; return ([], true)
    | _ => fail "<name> or '...' expected"

/-- The parameters and the body of a function that began on a line. -/
def body : Nat → Bool → Nat → Reader Proto
  | 0, _, _ => throw .tooDeep
  | fuel + 1, isMethod, start => inFunction start false do
    demandSymbol "("
    let self ← if isMethod then declareAll [("self", .free)] else pure []
    let (params, more) ← if ← atSymbol ")" then pure ([], false) else parameters fuel
    let slots ← declareAll (params.map (·, Access.free))
    setScope { (← scope) with takesMore := more }
    demandSymbol ")"
    let items ← statements fuel
    closeWord "end" "function" start
    return (self ++ slots, assemble items)

/-- The statements of a block. -/
def statements : Nat → Reader (List Item)
  | 0 => throw .tooDeep
  | fuel + 1 => do
    if ← blockEnds true then return []
    let isLast ← atWord "return"
    let items ← statement fuel
    if isLast then return items
    else return items ++ (← statements fuel)

/-- A block with a scope of its own. -/
def block : Nat → Reader Block
  | 0 => throw .tooDeep
  | fuel + 1 => inBlock false do
    return assemble (← statements fuel)

/-- A statement. -/
def statement : Nat → Reader (List Item)
  | 0 => throw .tooDeep
  | fuel + 1 => nested do
    let start ← line
    match ← token with
    | .symbol ";" => advance; return []
    | .symbol "::" =>
      advance
      let n ← name
      labelStatement fuel n start
    | .reserved "if" =>
      advance
      return [.stat (← conditional fuel start)]
    | .reserved "while" =>
      advance
      let c ← expr fuel 0
      demandWord "do"
      let b ← inBlock true (block fuel)
      closeWord "end" "while" start
      return [.stat (.whileDo c b)]
    | .reserved "do" =>
      advance
      let b ← block fuel
      closeWord "end" "do" start
      return [.stat (.scope b)]
    | .reserved "for" => return [.stat (← loopFor fuel start)]
    | .reserved "repeat" =>
      advance
      let (b, c) ← inBlock true (inBlock false do
        let items ← statements fuel
        closeWord "until" "repeat" start
        let c ← expr fuel 0
        return (assemble items, c))
      return [.stat (.repeatUntil b c)]
    | .reserved "function" =>
      advance
      let first ← name
      let v ← named first
      let (goal, isMethod) ← functionName fuel v
      let f ← body fuel isMethod start
      demandAssignable goal
      match target? goal with
      | some t => return [.stat (.assign [t] [.function f])]
      | none => fail "syntax error"
    | .reserved "local" =>
      advance
      if ← takeWord "function" then
        let n ← name
        let slot ← declare n .free
        let f ← body fuel false (← line)
        return [.stat (.declare [slot] []), .stat (.assign [.var (.slot slot)] [.function f])]
      else localStatement fuel
    | .reserved "return" =>
      advance
      let closes := (← scope).closes
      let isBare := (← blockEnds true) || (← atSymbol ";")
      let values ← if isBare then pure [] else exprs fuel
      let _ ← takeSymbol ";"
      return [.stat (giveBack values closes)]
    | .reserved "break" =>
      advance
      addJump leaveName start
      return [.stat .leaveLoop]
    | .reserved "goto" =>
      advance
      let n ← name
      if ((← scope).label? n).isNone then addJump n start
      return [.stat (.goto n)]
    | _ =>
      let e ← suffixed fuel
      if (← atSymbol "=") || (← atSymbol ",") then
        return [.stat (← assignment fuel [] e)]
      else if e.isCall then return [.stat (.call e)]
      else fail "syntax error"

/-- What follows a label: statements that do nothing belong to it. -/
def labelStatement : Nat → String → Nat → Reader (List Item)
  | 0, _, _ => throw .tooDeep
  | fuel + 1, n, start => do
    demandSymbol "::"
    let items ← emptyStatements fuel
    addLabel n start (← blockEnds false)
    return items ++ [.label n]

/-- Labels and empty statements. -/
def emptyStatements : Nat → Reader (List Item)
  | 0 => throw .tooDeep
  | fuel + 1 => do
    if (← atSymbol ";") || (← atSymbol "::") then
      let items ← statement fuel
      return items ++ (← emptyStatements fuel)
    else return []

/-- A conditional statement, after its first word. -/
def conditional : Nat → Nat → Reader Stat
  | 0, _ => throw .tooDeep
  | fuel + 1, start => do
    let c ← expr fuel 0
    demandWord "then"
    let yes ← block fuel
    if ← takeWord "elseif" then
      let no ← conditional fuel start
      return .ifElse c yes (.mk [no] [])
    else if ← takeWord "else" then
      let no ← block fuel
      closeWord "end" "if" start
      return .ifElse c yes no
    else
      closeWord "end" "if" start
      return .ifElse c yes Block.empty

/-- A loop over numbers or over what an iterator gives. -/
def loopFor : Nat → Nat → Reader Stat
  | 0, _ => throw .tooDeep
  | fuel + 1, start => inBlock true do
    advance
    let n ← name
    let s ←
      if ← takeSymbol "=" then do
        let a ← expr fuel 0
        demandSymbol ","
        let b ← expr fuel 0
        let c ← if ← takeSymbol "," then expr fuel 0 else pure (.int 1)
        declareHidden 3
        demandWord "do"
        let (slot, b') ← inBlock false do
          let slot ← declare n .free
          return (slot, ← block fuel)
        pure (Stat.forRange slot a b c b' start)
      else if (← atSymbol ",") || (← atWord "in") then do
        let more ← if ← takeSymbol "," then names fuel else pure []
        demandWord "in"
        let at_ ← line
        let values ← exprs fuel
        declareHidden 4
        markClosing
        demandWord "do"
        let (slots, b) ← inBlock false do
          let slots ← declareAll ((n :: more).map (·, Access.free))
          return (slots, ← block fuel)
        pure (Stat.forIn slots values b at_)
      else fail "'=' or 'in' expected"
    closeWord "end" "for" start
    return s

/-- Names between commas. -/
def names : Nat → Reader (List String)
  | 0 => throw .tooDeep
  | fuel + 1 => do
    let n ← name
    if ← takeSymbol "," then return n :: (← names fuel)
    else return [n]

/-- The name of a function that is defined: fields after a variable, and a method. -/
def functionName : Nat → Expr → Reader (Expr × Bool)
  | 0, _ => throw .tooDeep
  | fuel + 1, e => do
    if ← takeSymbol "." then
      let at_ ← line
      let n ← name
      functionName fuel (.index e (.str (bytes n)) at_)
    else if ← takeSymbol ":" then
      let at_ ← line
      let n ← name
      return (.index e (.str (bytes n)) at_, true)
    else return (e, false)

/-- Names with attributes, between commas; at most one of them is to be closed. -/
def attributedNames : Nat → Bool → Reader (List (String × Access))
  | 0, _ => throw .tooDeep
  | fuel + 1, closes => do
    let n ← name
    let access ← attribute_
    if closes && access == .closing then
      reject "multiple to-be-closed variables in local list"
    let closes := closes || access == .closing
    if ← takeSymbol "," then return (n, access) :: (← attributedNames fuel closes)
    else return [(n, access)]

/-- A declaration of variables, after its first word. -/
def localStatement : Nat → Reader (List Item)
  | 0 => throw .tooDeep
  | fuel + 1 => do
    let ns ← attributedNames fuel false
    let at_ ← line
    let values ← if ← takeSymbol "=" then exprs fuel else pure []
    let slots ← declareAll ns
    match (ns.zip slots).find? fun p => p.1.2 == .closing with
    | some ((n, _), slot) =>
      markClosing
      return [.stat (.declare slots values), .closing slot n at_]
    | none => return [.stat (.declare slots values)]

/-- An assignment, after its last target; `before` holds the targets before it, the last first. -/
def assignment : Nat → List Target → Expr → Reader Stat
  | 0, _, _ => throw .tooDeep
  | fuel + 1, before, e => do
    match target? e with
    | none => fail "syntax error"
    | some t =>
      demandAssignable e
      if ← takeSymbol "," then
        let next ← suffixed fuel
        nested (assignment fuel (t :: before) next)
      else
        demandSymbol "="
        let values ← exprs fuel
        return .assign ((t :: before).reverse) values

end

/-- A whole program. -/
def program (fuel : Nat) : Reader Block := do
  let l ← current
  demandSound (some l)
  let items ← statements fuel
  match ← token with
  | .eof => return assemble items
  | _ => fail "<eof> expected"

end Reader

/-- Reads a source text as a function. `chunk` is how messages name the text. -/
def readChunk (source chunk : ByteArray) : Except SourceFault Proto :=
  let lexemes := Token.lex source
  let start : ReaderState := { lexemes, scopes := [], depth := 0, chunk }
  let outer : Reader Proto := Reader.inFunction 0 true do
    let f ← Reader.scope
    Reader.setScope { f with captures := #[⟨"_ENV", .slot 0, .free⟩] }
    let body ← Reader.program (20 * lexemes.length + 64)
    return ([], body)
  (outer.run start).map (·.1)

end LuaSession.Lua
