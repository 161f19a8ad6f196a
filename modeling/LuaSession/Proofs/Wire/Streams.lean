import LuaSession.Proofs.Stream.Lines
import LuaSession.Proofs.Wire.Envelope

/-!
# Envelopes over the streams

Envelopes that are written to a stream one after the other are read from its bytes as the same
envelopes, and after the last of them the stream ends. Whatever characters their texts have, each
stays on a line of its own.

* `envelopes_arrive`: requests and responses, however many there are.
-/

namespace LuaSession.Wire

open LuaSession.Stream

/-- The line of a request can be sent as it is. -/
theorem Request.sendable {r : Request} (h : r.Exact) : Sendable r.encode.toList := by
  rw [Request.encode, String.toList_ofList]
  refine ⟨Request.chars_printable h, ?_⟩
  rw [Request.chars_fields]
  rfl

/-- The line of a response can be sent as it is. -/
theorem Response.sendable {r : Response} (h : r.Exact) : Sendable r.encode.toList := by
  rw [Response.encode, String.toList_ofList]
  refine ⟨Response.chars_printable h, ?_⟩
  rw [Response.chars_fields]
  rfl

/-- Lines that can be sent are carried as they are. -/
theorem carries_strings {lines : List String} (h : ∀ line ∈ lines, Sendable line.toList) :
    Transport.Carries lines := by
  have hchars : ∀ cs ∈ lines.map String.toList, Sendable cs := by
    intro cs hcs
    obtain ⟨line, hline, rfl⟩ := List.mem_map.1 hcs
    exact h line hline
  have hlines : (lines.map String.toList).map String.ofList = lines := by
    rw [List.map_map]
    exact List.map_id'' (fun line => String.ofList_toList) lines
  rw [← hlines]
  exact Transport.carries_lines hchars

/-- Requests, and responses, whose numbers are integers of 64 bits and which do not nest deeper than
the reader goes: the lines that are written for them are the lines that are read from the bytes, and
then the stream ends; each is read as the envelope that it was written for, but for error data that
is null, which is no data. Each is one line that is not blank and has no control character, and the
line of a response has just one of the members for a result and for an error. -/
theorem envelopes_arrive :
    (∀ rs : List Request, (∀ r ∈ rs, r.Exact) →
      Transport.Carries (rs.map Request.encode) ∧
      rs.map (fun r => decodeRequest r.encode.toList) = rs.map .ok ∧
      ∀ r ∈ rs, Sendable r.encode.toList) ∧
    (∀ rs : List Response, (∀ r ∈ rs, r.Exact) →
      Transport.Carries (rs.map Response.encode) ∧
      rs.map (fun r => decodeResponse r.encode.toList) = rs.map (fun r => .ok r.settled) ∧
      ∀ r ∈ rs, Sendable r.encode.toList ∧ ∃ members,
        Json.parse r.encode.toList = .ok (.obj members) ∧
        (Json.lookup "result" members).isSome = !(Json.lookup "error" members).isSome) := by
  constructor
  · intro rs h
    have hsend : ∀ r ∈ rs, Sendable r.encode.toList := fun r hr => Request.sendable (h r hr)
    exact ⟨carries_strings (List.forall_mem_map.2 hsend),
      List.map_congr_left fun r hr => decodeRequest_encode (h r hr), hsend⟩
  · intro rs h
    have hsend : ∀ r ∈ rs, Sendable r.encode.toList := fun r hr => Response.sendable (h r hr)
    exact ⟨carries_strings (List.forall_mem_map.2 hsend),
      List.map_congr_left fun r hr => decodeResponse_encode (h r hr), fun r hr => ⟨hsend r hr,
        r.members, Response.parse_encode (h r hr), Response.lookup_outcome r⟩⟩

/-- A request whose texts have line ends, quotes and separators in them. -/
def sampleTexts : Request where
  id := .str "a\r\n\"\\"
  method := "\u2028exe\ncute\u0000"
  params := .obj [("", .arr [.int (-0x8000000000000000), .null]), ("code\r", .str "return 'x'\r\n")]

/-- An error with data that is null. -/
def sampleFailure : Response where
  id := .int (0x10000000000000000 - 1)
  outcome := .error ⟨-0x8000000000000000, "\tno\n", some .null⟩

theorem sampleTexts_exact : sampleTexts.Exact where
  id := trivial
  params := ⟨by decide, ⟨⟨by decide, by decide⟩, trivial, trivial⟩, trivial, trivial⟩
  idDepth := by decide
  paramsDepth := by decide

theorem sampleFailure_exact : sampleFailure.Exact where
  id := ⟨by decide, by decide⟩
  idDepth := by decide
  result := nofun
  resultDepth := nofun
  error := by
    rintro _ ⟨⟩
    refine ⟨by decide, by decide, ?_, ?_⟩
    · rintro _ ⟨⟩
      trivial
    · rintro _ ⟨⟩
      decide

/-- Two requests arrive, and an error without its data. -/
theorem envelopes_arrive_sample :
    Transport.Carries [sampleTexts.encode, sampleTexts.encode] ∧
    decodeRequest sampleTexts.encode.toList = .ok sampleTexts ∧
    Transport.Carries [sampleFailure.encode] ∧
    decodeResponse sampleFailure.encode.toList =
      .ok ⟨.int (0x10000000000000000 - 1), .error ⟨-0x8000000000000000, "\tno\n", none⟩⟩ := by
  obtain ⟨hcarried, hread, -⟩ := envelopes_arrive.1 [sampleTexts, sampleTexts]
    (List.forall_mem_cons.2 ⟨sampleTexts_exact, List.forall_mem_singleton.2 sampleTexts_exact⟩)
  obtain ⟨hcarried', hread', -⟩ := envelopes_arrive.2 [sampleFailure]
    (List.forall_mem_singleton.2 sampleFailure_exact)
  exact ⟨hcarried, (List.cons.inj hread).1, hcarried', (List.cons.inj hread').1⟩

end LuaSession.Wire
