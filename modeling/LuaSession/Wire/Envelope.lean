import LuaSession.Wire.Error

/-!
# Envelopes

One request or response on one line. A request names a method and has parameters, an empty object
when none are given; a response has a result or an error, and the id of its request.
-/

namespace LuaSession.Wire

/-- A request. -/
structure Request where
  id : Json
  method : String
  params : Json

/-- A response. -/
structure Response where
  id : Json
  outcome : Except RpcError Json

/-- Whether the response carries an error. -/
def Response.isError (r : Response) : Bool :=
  match r.outcome with
  | .error _ => true
  | .ok _ => false

/-- How every envelope begins. -/
def head (id : Json) : List Char :=
  "\x7b\"jsonrpc\":\"2.0\",\"id\":".toList ++ id.chars

/-- The line of a request. -/
def Request.chars (r : Request) : List Char :=
  head r.id ++ ",\"method\":".toList ++ Json.quote r.method.toList ++ ",\"params\":".toList ++
    r.params.chars ++ ['\x7d']

/-- The line of a response. -/
def Response.chars (r : Response) : List Char :=
  head r.id ++
    (match r.outcome with
      | .ok v => ",\"result\":".toList ++ v.chars
      | .error e => ",\"error\":".toList ++ e.chars) ++ ['\x7d']

/-- The line of a request, as a string. -/
def Request.encode (r : Request) : String := String.ofList r.chars

/-- The line of a response, as a string. -/
def Response.encode (r : Response) : String := String.ofList r.chars

/-- Why a line is no request. -/
inductive RequestFault
  | notObject | methodNotString | missingMethod
  deriving DecidableEq, Repr

/-- The wording of a fault. -/
def RequestFault.reason : RequestFault → String
  | .notObject => "expected object"
  | .methodNotString => "method must be a string"
  | .missingMethod => "missing method"

/-- Why a line is no response. -/
inductive ResponseFault
  | notObject | missingOutcome
  | malformedError (fault : ShapeFault)

/-- The wording of a fault. -/
def ResponseFault.reason : ResponseFault → String
  | .notObject => "expected object"
  | .missingOutcome => "missing result or error"
  | .malformedError f => "malformed error: " ++ f.message

/-- Why a line is no envelope. -/
inductive ProtocolError
  | parse (error : Json.ReadError)
  | invalidRequest (id : Json) (fault : RequestFault)
  | invalidResponse (fault : ResponseFault)

namespace ProtocolError

/-- The wording of an error. -/
def message : ProtocolError → String
  | .parse e => "Parse error: " ++ e.message
  | .invalidRequest _ f => "Invalid Request: " ++ f.reason
  | .invalidResponse f => "invalid response: " ++ f.reason

/-- The id that a response to the line echoes. -/
def id : ProtocolError → Json
  | .invalidRequest id _ => id
  | _ => .null

/-- The error that a response to the line carries. -/
def toRpcError : ProtocolError → RpcError
  | .parse e => .ofCode .parseError e.message
  | .invalidRequest _ f => .ofCode .invalidRequest f.reason
  | .invalidResponse f => .ofCode .internalError f.reason

end ProtocolError

/-- Reads a line as a request. -/
def decodeRequest (line : List Char) : Except ProtocolError Request :=
  match Json.parse line with
  | .error e => .error (.parse e)
  | .ok (.obj fields) =>
    let id := (Json.lookup "id" fields).getD .null
    match Json.lookup "method" fields with
    | some (.str method) => .ok ⟨id, method, (Json.lookup "params" fields).getD (.obj [])⟩
    | some _ => .error (.invalidRequest id .methodNotString)
    | none => .error (.invalidRequest id .missingMethod)
  | .ok _ => .error (.invalidRequest .null .notObject)

/-- Reads a line as a response. -/
def decodeResponse (line : List Char) : Except ProtocolError Response :=
  match Json.parse line with
  | .error e => .error (.parse e)
  | .ok (.obj fields) =>
    let id := (Json.lookup "id" fields).getD .null
    match Json.lookup "error" fields with
    | some v =>
      match RpcError.ofJson v with
      | .ok e => .ok ⟨id, .error e⟩
      | .error f => .error (.invalidResponse (.malformedError f))
    | none =>
      match Json.lookup "result" fields with
      | some v => .ok ⟨id, .ok v⟩
      | none => .error (.invalidResponse .missingOutcome)
  | .ok _ => .error (.invalidResponse .notObject)

end LuaSession.Wire
