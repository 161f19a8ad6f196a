import LuaSession.Lua.Token

/-!
# Matching strings

The patterns of the string library: classes of bytes with repetitions, captures, balanced pairs and
frontiers. Matching goes from left to right and backtracks; what is wrong with a pattern is noticed
when matching comes to it.
-/

namespace LuaSession.Lua.Match

/-- How far a capture reaches: it is still open, it is only a place, or it has a length. -/
inductive Extent
  | open_
  | place
  | closed (length : Nat)
  deriving DecidableEq, Repr, Inhabited

/-- A capture. -/
structure Capture where
  start : Nat
  extent : Extent
  deriving Repr, Inhabited

/-- A text and a pattern. -/
structure Subject where
  text : ByteArray
  pattern : ByteArray

/-- The end of a match and its captures, if there is a match, or what is wrong with the pattern. -/
abbrev Outcome := Except String (Option (Nat × Array Capture))

/-- How many captures a pattern may have. -/
def captureLimit : Nat := 32

/-- How deep matching may go. -/
def depthLimit : Nat := 200

/-- The byte at a place, or zero. -/
def at_ (b : ByteArray) (i : Nat) : UInt8 := if i < b.size then b.get! i else 0

/-! ### Classes of bytes -/

/-- Whether a byte is a letter. -/
def isAlpha (c : UInt8) : Bool := (0x41 ≤ c && c ≤ 0x5A) || (0x61 ≤ c && c ≤ 0x7A)

/-- Whether a byte is a small letter. -/
def isLower (c : UInt8) : Bool := 0x61 ≤ c && c ≤ 0x7A

/-- Whether a byte is a capital letter. -/
def isUpper (c : UInt8) : Bool := 0x41 ≤ c && c ≤ 0x5A

/-- Whether a byte is shown and not blank. -/
def isGraph (c : UInt8) : Bool := 0x21 ≤ c && c ≤ 0x7E

/-- Whether a byte is a control character. -/
def isControl (c : UInt8) : Bool := c < 0x20 || c == 0x7F

/-- A letter as a small letter. -/
def lower (c : UInt8) : UInt8 := if isUpper c then c + 32 else c

/-- A letter as a capital letter. -/
def upper (c : UInt8) : UInt8 := if isLower c then c - 32 else c

/-- Whether a byte is in the class of a letter; a capital letter means its opposite. Other letters
mean themselves. -/
def inClass (c letter : UInt8) : Bool :=
  let member (r : Bool) : Bool := if isUpper letter then !r else r
  match byteChar (lower letter) with
  | 'a' => member (isAlpha c)
  | 'c' => member (isControl c)
  | 'd' => member (Token.isDigitByte c)
  | 'g' => member (isGraph c)
  | 'l' => member (isLower c)
  | 'p' => member (isGraph c && !isAlpha c && !Token.isDigitByte c)
  | 's' => member (isSpaceByte c)
  | 'u' => member (isUpper c)
  | 'w' => member (isAlpha c || Token.isDigitByte c)
  | 'x' => member (Token.hexByte? c).isSome
  | _ => letter == c

/-- The place after the set that began before place `i`; `first` tells that no member was read. -/
def setEnd (pattern : ByteArray) : (fuel : Nat) → (i : Nat) → (first : Bool) → Except String Nat
  | 0, _, _ => .error "malformed pattern (missing ']')"
  | fuel + 1, i, first =>
    if pattern.size ≤ i then .error "malformed pattern (missing ']')"
    else
      let c := at_ pattern i
      if c == 0x5D && !first then .ok (i + 1)
      else if c == 0x25 then
        setEnd pattern fuel (i + 2) false
      else setEnd pattern fuel (i + 1) false

/-- The place after the single item at place `i`. -/
def itemEnd (pattern : ByteArray) (i : Nat) : Except String Nat :=
  let c := at_ pattern i
  if c == 0x25 then
    if pattern.size ≤ i + 1 then .error "malformed pattern (ends with '%')"
    else .ok (i + 2)
  else if c == 0x5B then
    let start := if at_ pattern (i + 1) == 0x5E then i + 2 else i + 1
    setEnd pattern (pattern.size + 1) start true
  else .ok (i + 1)

/-- Whether a byte is a member of a set whose members are from place `i` up to the bracket at
`last`. -/
def inMembers (pattern : ByteArray) (c : UInt8) (last : Nat) : (fuel : Nat) → (i : Nat) → Bool
  | 0, _ => false
  | fuel + 1, i =>
    if last ≤ i then false
    else if at_ pattern i == 0x25 then
      inClass c (at_ pattern (i + 1)) || inMembers pattern c last fuel (i + 2)
    else if at_ pattern (i + 1) == 0x2D && i + 2 < last then
      (at_ pattern i ≤ c && c ≤ at_ pattern (i + 2)) || inMembers pattern c last fuel (i + 3)
    else at_ pattern i == c || inMembers pattern c last fuel (i + 1)

/-- Whether a byte is in the set from the bracket at `i` to the bracket at `last`. -/
def inSet (pattern : ByteArray) (c : UInt8) (i last : Nat) : Bool :=
  if at_ pattern (i + 1) == 0x5E then !inMembers pattern c last (last + 1) (i + 2)
  else inMembers pattern c last (last + 1) (i + 1)

/-- Whether the byte of the text at `s` is one that the item from `p` to `e` means. -/
def single (x : Subject) (s p e : Nat) : Bool :=
  if x.text.size ≤ s then false
  else
    let c := at_ x.text s
    match byteChar (at_ x.pattern p) with
    | '.' => true
    | '%' => inClass c (at_ x.pattern (p + 1))
    | '[' => inSet x.pattern c p (e - 1)
    | _ => at_ x.pattern p == c

/-! ### Matching -/

/-- The end of a balanced pair from place `s` on. -/
def balanceEnd (x : Subject) (opening closing : UInt8) :
    (fuel : Nat) → (s depth : Nat) → Option Nat
  | 0, _, _ => none
  | fuel + 1, s, depth =>
    if x.text.size ≤ s then none
    else
      let c := at_ x.text s
      if c == closing then
        if depth == 1 then some (s + 1) else balanceEnd x opening closing fuel (s + 1) (depth - 1)
      else balanceEnd x opening closing fuel (s + 1) (if c == opening then depth + 1 else depth)

/-- How many bytes from place `s` on are ones that the item means. -/
def countSingles (x : Subject) (p e : Nat) : (fuel : Nat) → (s : Nat) → Nat
  | 0, _ => 0
  | fuel + 1, s => if single x s p e then countSingles x p e fuel (s + 1) + 1 else 0

/-- The first match among the greatest number of repetitions, one less, and so on. -/
def longestFirst (rest : Nat → Outcome) (s : Nat) : (count : Nat) → Outcome
  | 0 => rest s
  | n + 1 =>
    match rest (s + n + 1) with
    | .ok none => longestFirst rest s n
    | r => r

/-- The first match among no repetition, one, and so on. -/
def shortestFirst (x : Subject) (p e : Nat) (rest : Nat → Outcome) :
    (fuel : Nat) → (s : Nat) → Outcome
  | 0, _ => .ok none
  | fuel + 1, s =>
    match rest s with
    | .ok none => if single x s p e then shortestFirst x p e rest fuel (s + 1) else .ok none
    | r => r

/-- The place of the capture that a closing parenthesis ends. -/
def openCapture? (captures : Array Capture) : Option Nat :=
  (captures.toList.zipIdx.reverse.find? fun c => c.1.extent == .open_).map (·.2)

/-- Whether the text at `s` goes on as it does at `start`. -/
def repeats (x : Subject) (start s : Nat) : (length : Nat) → Bool
  | 0 => true
  | n + 1 => at_ x.text (start + n) == at_ x.text (s + n) && repeats x start s n

/-- Matches the pattern from place `p` on at place `s` of the text. -/
def matchFrom (x : Subject) :
    (fuel : Nat) → (depth s p : Nat) → (captures : Array Capture) → Outcome
  | 0, _, _, _, _ => .error "pattern too complex"
  | fuel + 1, depth, s, p, captures =>
    if depthLimit ≤ depth then .error "pattern too complex"
    else if x.pattern.size ≤ p then .ok (some (s, captures))
    else
      let plain : Outcome :=
        match itemEnd x.pattern p with
        | .error e => .error e
        | .ok e =>
          let mark := byteChar (at_ x.pattern e)
          let rest (s : Nat) : Outcome := matchFrom x fuel (depth + 1) s (e + 1) captures
          if e < x.pattern.size && mark == '*' then
            longestFirst rest s (countSingles x p e (x.text.size + 1) s)
          else if e < x.pattern.size && mark == '-' then
            shortestFirst x p e rest (x.text.size + 2) s
          else if e < x.pattern.size && mark == '+' then
            if single x s p e then
              longestFirst rest (s + 1) (countSingles x p e (x.text.size + 1) (s + 1))
            else .ok none
          else if e < x.pattern.size && mark == '?' then
            if single x s p e then
              match rest (s + 1) with
              | .ok none => matchFrom x fuel depth s (e + 1) captures
              | r => r
            else matchFrom x fuel depth s (e + 1) captures
          else if single x s p e then matchFrom x fuel depth (s + 1) e captures
          else .ok none
      match byteChar (at_ x.pattern p) with
      | '(' =>
        if captureLimit ≤ captures.size then .error "too many captures"
        else if at_ x.pattern (p + 1) == 0x29 then
          matchFrom x fuel (depth + 1) s (p + 2) (captures.push ⟨s, .place⟩)
        else matchFrom x fuel (depth + 1) s (p + 1) (captures.push ⟨s, .open_⟩)
      | ')' =>
        match openCapture? captures with
        | none => .error "invalid pattern capture"
        | some i =>
          matchFrom x fuel (depth + 1) s (p + 1)
            (captures.modify i fun c => { c with extent := .closed (s - c.start) })
      | '$' =>
        if p + 1 == x.pattern.size then
          .ok (if s == x.text.size then some (s, captures) else none)
        else plain
      | '%' =>
        let next := at_ x.pattern (p + 1)
        if next == 0x62 then
          if x.pattern.size ≤ p + 3 then .error "malformed pattern (missing arguments to '%b')"
          else if s < x.text.size && at_ x.text s == at_ x.pattern (p + 2) then
            match balanceEnd x (at_ x.pattern (p + 2)) (at_ x.pattern (p + 3)) (x.text.size + 1)
                (s + 1) 1 with
            | some e => matchFrom x fuel depth e (p + 4) captures
            | none => .ok none
          else .ok none
        else if next == 0x66 then
          if at_ x.pattern (p + 2) != 0x5B then .error "missing '[' after '%f' in pattern"
          else
            match itemEnd x.pattern (p + 2) with
            | .error e => .error e
            | .ok e =>
              let before := if s == 0 then 0 else at_ x.text (s - 1)
              if !inSet x.pattern before (p + 2) (e - 1)
                  && inSet x.pattern (at_ x.text s) (p + 2) (e - 1) then
                matchFrom x fuel depth s e captures
              else .ok none
        else if Token.isDigitByte next then
          let i := next.toNat - 0x31
          let known := if next == 0x30 then none else captures[i]?
          match known with
          | some ⟨start, .closed n⟩ =>
            if s + n ≤ x.text.size && repeats x start s n then
              matchFrom x fuel depth (s + n) (p + 2) captures
            else .ok none
          | some ⟨_, .place⟩ => .ok none
          | _ =>
            let shown := String.ofList (Number.natChars (next.toNat - 0x30))
            .error s!"invalid capture index %{shown}"
        else plain
      | _ => plain

/-- Matches the pattern from place `p` on at place `s` of the text. -/
def match_ (x : Subject) (s p : Nat) : Outcome :=
  matchFrom x (2 * (x.text.size + x.pattern.size) + 16) 0 s p #[]

/-- The first match at place `s` or after it, with its start. -/
def searchFrom (x : Subject) (p : Nat) (anchored : Bool) :
    (fuel : Nat) → (s : Nat) → Except String (Option (Nat × Nat × Array Capture))
  | 0, _ => .ok none
  | fuel + 1, s =>
    match match_ x s p with
    | .error e => .error e
    | .ok (some (e, cs)) => .ok (some (s, e, cs))
    | .ok none =>
      if anchored || x.text.size ≤ s then .ok none else searchFrom x p anchored fuel (s + 1)

/-- Whether a pattern is bound to the beginning. -/
def isAnchored (pattern : ByteArray) : Bool := at_ pattern 0 == 0x5E && 0 < pattern.size

/-- The first match of a pattern at place `s` or after it, with its start. -/
def search (x : Subject) (s : Nat) : Except String (Option (Nat × Nat × Array Capture)) :=
  let anchored := isAnchored x.pattern
  searchFrom x (if anchored then 1 else 0) anchored (x.text.size + 2) s

/-- The value of a capture. -/
def captureValue (x : Subject) (c : Capture) : Except String Value :=
  match c.extent with
  | .place => .ok (.int (Int64.ofNat (c.start + 1)))
  | .closed n => .ok (.str (sliceBytes x.text c.start (c.start + n)))
  | .open_ => .error "unfinished capture"

/-- The values of the captures of a match, or of the whole match if it has none. -/
def captureValues (x : Subject) (start stop : Nat) (captures : Array Capture) :
    Except String (List Value) :=
  if captures.isEmpty then .ok [.str (sliceBytes x.text start stop)]
  else captures.toList.mapM (captureValue x)

/-- The place from which `needle` stands in `hay`, from place `i` on. -/
def findFrom (hay needle : ByteArray) : (fuel : Nat) → (i : Nat) → Option Nat
  | 0, _ => none
  | fuel + 1, i =>
    if hay.size < i + needle.size then none
    else if agrees i needle.size then some i
    else findFrom hay needle fuel (i + 1)
where
  /-- Whether the first `n` bytes of the needle stand at place `i`. -/
  agrees (i : Nat) : (n : Nat) → Bool
    | 0 => true
    | n + 1 => at_ hay (i + n) == at_ needle n && agrees i n

/-- Whether a pattern has bytes of special meaning. -/
def hasSpecials (pattern : ByteArray) : Bool :=
  pattern.data.any fun c => "^$*+?.([%-".toList.contains (byteChar c)

end LuaSession.Lua.Match
