import LuaSession.Json.Reader
import LuaSession.Text.Quoted

/-!
# Errors on the wire

An error has an integer code, a message and optional data. Five codes have a name of their own.
`RpcError.ofJson` reads an error object and says of every other value why it is none.

* `ErrorCode.ofCode_code`: the code of a name gives the name back.
-/

namespace LuaSession.Wire

/-- The named error codes. -/
inductive ErrorCode
  | parseError | invalidRequest | methodNotFound | invalidParams | internalError
  deriving DecidableEq, Repr

namespace ErrorCode

/-- The number of a code. -/
def code : ErrorCode → Int
  | .parseError => -32700
  | .invalidRequest => -32600
  | .methodNotFound => -32601
  | .invalidParams => -32602
  | .internalError => -32603

/-- The name of a number. -/
def ofCode (n : Int) : Option ErrorCode :=
  if n = -32700 then some .parseError
  else if n = -32600 then some .invalidRequest
  else if n = -32601 then some .methodNotFound
  else if n = -32602 then some .invalidParams
  else if n = -32603 then some .internalError
  else none

/-- How messages with this code begin. -/
def label : ErrorCode → String
  | .parseError => "Parse error"
  | .invalidRequest => "Invalid Request"
  | .methodNotFound => "Method not found"
  | .invalidParams => "Invalid params"
  | .internalError => "Internal error"

theorem ofCode_code (c : ErrorCode) : ofCode c.code = some c := by
  cases c <;> decide

end ErrorCode

/-- An error as it is sent. -/
structure RpcError where
  code : Int
  message : String
  data : Option Json := none

namespace RpcError

/-- The error with a named code and a detail after its label. -/
def ofCode (c : ErrorCode) (detail : String) : RpcError where
  code := c.code
  message := c.label ++ ": " ++ detail

/-- The name of the error's code. -/
def known (e : RpcError) : Option ErrorCode :=
  ErrorCode.ofCode e.code

/-- The error as a text. -/
def display (e : RpcError) : String :=
  s!"{e.message} (code {Number.intText e.code})"

/-- The written form of an error. -/
def chars (e : RpcError) : List Char :=
  "\x7b\"code\":".toList ++ Number.intChars e.code ++ ",\"message\":".toList ++
    Json.quote e.message.toList ++
    (match e.data with
      | some d => ",\"data\":".toList ++ Json.chars d
      | none => []) ++ ['\x7d']

end RpcError

/-! ### Reading values of a fixed type -/

/-- The type that was wanted where a value of another stands. -/
inductive Wanted
  | i64 | string | rpcError | boolean
  deriving DecidableEq, Repr

/-- The wording of a wanted type. -/
def Wanted.text : Wanted → String
  | .i64 => "i64"
  | .string => "a string"
  | .rpcError => "struct RpcError"
  | .boolean => "a boolean"

/-- Why a value has not the form that was wanted. -/
inductive ShapeFault
  | wrongType (found : Json) (wanted : Wanted)
  | outOfRange (n : Int) (wanted : Wanted)
  | missingField (name : String)
  | tooShort (length : Nat)
  | tooLong (length : Nat)

/-- What a fault says was found. -/
def foundText : Json → String
  | .null => "null"
  | .bool b => if b then "boolean `true`" else "boolean `false`"
  | .int n => s!"integer `{Number.intText n}`"
  | .float x => s!"floating point `{String.ofList (Json.floatChars x)}`"
  | .str s => s!"string {Text.quotedText s}"
  | .arr _ => "sequence"
  | .obj _ => "map"

/-- The wording of a fault. -/
def ShapeFault.message : ShapeFault → String
  | .wrongType v w => s!"invalid type: {foundText v}, expected {w.text}"
  | .outOfRange n w => s!"invalid value: integer `{Number.intText n}`, expected {w.text}"
  | .missingField name => s!"missing field `{name}`"
  | .tooShort n => s!"invalid length {n}, expected struct RpcError with 3 elements"
  | .tooLong n => s!"invalid length {n}, expected fewer elements in array"

/-- An integer of 64 bits with a sign. -/
def readI64 : Json → Except ShapeFault Int
  | .int n => if n < 0x8000000000000000 then .ok n else .error (.outOfRange n .i64)
  | v => .error (.wrongType v .i64)

/-- A string. -/
def readString : Json → Except ShapeFault String
  | .str s => .ok s
  | v => .error (.wrongType v .string)

/-- Optional data, where null stands for none. -/
def readData : Json → Option Json
  | .null => none
  | v => some v

/-- A member that must be there. -/
def need {α : Type} (name : String) : Option α → Except ShapeFault α
  | some a => .ok a
  | none => .error (.missingField name)

/-- A member read if it is there. -/
def readMember {α : Type} (read : Json → Except ShapeFault α) :
    Option Json → Except ShapeFault (Option α)
  | none => .ok none
  | some v => (read v).map some

/-- Reads an error: an object with a code and a message, or an array of code, message and data. -/
def RpcError.ofJson : Json → Except ShapeFault RpcError
  | .obj fields => do
    let code ← readMember readI64 (Json.lookup "code" fields)
    let data := (Json.lookup "data" fields).bind readData
    let message ← readMember readString (Json.lookup "message" fields)
    return ⟨← need "code" code, ← need "message" message, data⟩
  | .arr items =>
    match items with
    | [] => .error (.tooShort 0)
    | c :: rest => do
      let code ← readI64 c
      match rest with
      | [] => .error (.tooShort 1)
      | m :: rest =>
        let message ← readString m
        match rest with
        | [] => return ⟨code, message, none⟩
        | [d] => return ⟨code, message, readData d⟩
        | _ => .error (.tooLong items.length)
  | v => .error (.wrongType v .rpcError)

end LuaSession.Wire
