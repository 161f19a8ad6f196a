import LuaSession.Json.Printer
import LuaSession.Json.Reader
import LuaSession.Number.Digits

/-!
# The bridge to the host

Evaluated code asks the host by a method and parameters and gets a value or a failure.
`answers` makes the reply to a batch of prompts into one string for each prompt.

* `length_answers`: there are as many answers as prompts.
-/

namespace LuaSession

/-- Why the host gave no value. -/
inductive BridgeError
  | remote (code : Int) (message : String)
  | closed (id : String)
  | idMismatch (expected : String) (actual : Json)
  | malformed (detail : String)
  | io (detail : String)
  | detached

/-- The wording of a failure. -/
def BridgeError.message : BridgeError → String
  | .remote code message => s!"bridge error: {message} (code {Number.intText code})"
  | .closed id => s!"bridge closed while awaiting reply to {id}"
  | .idMismatch expected actual =>
    s!"bridge reply id mismatch: expected {expected}, got {actual.print}"
  | .malformed d => "malformed bridge reply: " ++ d
  | .io d => "bridge i/o failed: " ++ d
  | .detached => "no bridge attached"

/-- A way to ask the host. -/
abbrev Bridge (m : Type → Type) := (method : String) → (params : Json) → m (Except BridgeError Json)

namespace Bridge

/-- The method that asks for one completion. -/
def promptMethod : String := "bridge:llm"

/-- The method that hands a task on. -/
def taskMethod : String := "bridge:rlm"

/-- The method that asks for several completions. -/
def batchMethod : String := "bridge:batch_llm"

/-- The answers to a batch: the elements of an array of the expected length, and otherwise the
whole reply once for each prompt. -/
def answers (reply : Json) (expected : Nat) : List String :=
  match reply with
  | .arr items =>
    if items.length = expected then items.map Json.display
    else List.replicate expected (Json.display reply)
  | other => List.replicate expected (Json.display other)

/-- There are as many answers as prompts. -/
theorem length_answers (reply : Json) (expected : Nat) :
    (answers reply expected).length = expected := by
  unfold answers
  split
  · split <;> simp_all
  · simp

/-- The bridge that leads nowhere. -/
def detached {m : Type → Type} [Monad m] : Bridge m :=
  fun _ _ => pure (.error .detached)

/-- A bridge of prepared replies: what is left of them and the calls made so far. -/
structure Script where
  replies : List (Except BridgeError Json)
  calls : List (String × Json) := []

/-- Answers each call by the next prepared reply. -/
def Script.bridge : Bridge (StateM Script) := fun method params s =>
  match s.replies with
  | [] => (.error .detached, { s with calls := s.calls ++ [(method, params)] })
  | r :: rest => (r, ⟨rest, s.calls ++ [(method, params)]⟩)

end Bridge

end LuaSession
