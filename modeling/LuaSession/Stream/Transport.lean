import LuaSession.Text.Blank
import LuaSession.Text.Lines
import LuaSession.Text.Utf8

/-!
# Lines over a pair of streams

Envelopes travel as lines. Reading skips blank lines and drops line ends; bytes that are no text
are replaced. Writing a line is a write of its text, a write of a line feed and a flush.

A stream is a value: what is left to be read and whether it ends in a failure, what was written and
when writing begins to fail.
-/

namespace LuaSession.Stream

open LuaSession.Text

/-- Why a line could not be read or written, with the text of the stream's own failure. -/
inductive TransportError
  | read (detail : String)
  | write (detail : String)
  deriving DecidableEq, Repr

/-- The wording of a failure. -/
def TransportError.message : TransportError → String
  | .read d => "failed to read inbound line: " ++ d
  | .write d => "failed to write outbound line: " ++ d

/-- The text of the stream's own failure. -/
def TransportError.detail : TransportError → String
  | .read d | .write d => d

/-- A stream to read from: the pieces that are left, each up to and with its line feed, and the
failure that stands at its end. -/
structure Inbound where
  pieces : List (List UInt8)
  failure : Option String := none
  deriving DecidableEq, Repr

/-- The stream of some bytes. -/
def Inbound.ofBytes (bytes : List UInt8) (failure : Option String := none) : Inbound :=
  ⟨Text.pieces 0x0A bytes, failure⟩

/-- Whether a character ends lines. -/
def isLineEnd (c : Char) : Bool :=
  c == '\n' || c == '\r'

/-- The line in the bytes of a piece. -/
def lineOf (piece : List UInt8) : List Char :=
  dropWhileEnd isLineEnd (Utf8.decode piece)

/-- The next line that is not blank, and the pieces after it. A last piece without a line feed is
lost when the stream fails after it. -/
def nextLine (failure : Option String) :
    List (List UInt8) → Except TransportError (Option String) × List (List UInt8)
  | [] =>
    match failure with
    | some f => (.error (.read f), [])
    | none => (.ok none, [])
  | p :: ps =>
    match ps.isEmpty && p.getLast? != some 0x0A, failure with
    | true, some f => (.error (.read f), [])
    | _, _ =>
      let line := lineOf p
      if isBlankText line then nextLine failure ps else (.ok (some (String.ofList line)), ps)

/-- A stream to write to: the writes that succeeded, how many may succeed and how the next one
fails, and how a flush fails. -/
structure Outbound where
  writes : List String := []
  limit : Option (Nat × String) := none
  flushFailure : Option String := none
  deriving DecidableEq, Repr

/-- One write. Writing nothing is no write. -/
def Outbound.put (o : Outbound) (text : String) : Except TransportError Unit × Outbound :=
  if text.isEmpty then (.ok (), o)
  else
    match o.limit with
    | some (n, f) =>
      if o.writes.length < n then (.ok (), { o with writes := o.writes ++ [text] })
      else (.error (.write f), o)
    | none => (.ok (), { o with writes := o.writes ++ [text] })

/-- A line: its text, a line feed and a flush, up to the first that fails. -/
def Outbound.putLine (o : Outbound) (line : String) : Except TransportError Unit × Outbound :=
  match o.put line with
  | (.error e, o) => (.error e, o)
  | (.ok (), o) =>
    match o.put "\n" with
    | (.error e, o) => (.error e, o)
    | (.ok (), o) =>
      match o.flushFailure with
      | some f => (.error (.write f), o)
      | none => (.ok (), o)

/-- All that was written. -/
def Outbound.sent (o : Outbound) : String :=
  String.join o.writes

/-- A pair of streams. -/
structure Transport where
  inbound : Inbound
  outbound : Outbound
  deriving DecidableEq, Repr

/-- Reads the next line that is not blank; none at the end of the stream. -/
def Transport.readLine (t : Transport) : Except TransportError (Option String) × Transport :=
  let (r, ps) := nextLine t.inbound.failure t.inbound.pieces
  (r, { t with inbound := { t.inbound with pieces := ps } })

/-- Writes a line. -/
def Transport.writeLine (t : Transport) (line : String) :
    Except TransportError Unit × Transport :=
  let (r, o) := t.outbound.putLine line
  (r, { t with outbound := o })

end LuaSession.Stream
