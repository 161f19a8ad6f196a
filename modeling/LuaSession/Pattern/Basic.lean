import LuaSession.Pattern.Reader
import LuaSession.Pattern.Report
import LuaSession.Pattern.Weight
import LuaSession.Pattern.Matching
import LuaSession.Text.Quoted

/-!
# Patterns

A pattern is a text of at most `maxLength` characters that is read without regard to case unless
it says otherwise. In `lines` mode its line anchors hold at every line.
-/

namespace LuaSession.Pattern

/-- The greatest length of a pattern, in characters. -/
def maxLength : Nat := 500

/-- Why a pattern cannot be used. -/
inductive Refusal
  | tooLong (length : Nat)
  | invalid (pattern : String) (reason : String)
  deriving DecidableEq, Repr

/-- The wording of a refusal. -/
def Refusal.message : Refusal → String
  | .tooLong n => s!"pattern too long: {n} characters (max {maxLength})"
  | .invalid pattern reason => s!"invalid pattern {Text.quotedText pattern}: {reason}"

/-- Compiles a pattern. -/
def compile (pattern : List Char) (linesMode : Bool) : Except Refusal Program :=
  let invalid (reason : String) : Refusal := .invalid (String.ofList pattern) reason
  if maxLength < pattern.length then .error (.tooLong pattern.length)
  else
    match Node.parse pattern with
    | .error f => .error (invalid (f.report pattern))
    | .ok node =>
      match node.meaning ⟨true, linesMode, false, false, true, false⟩ with
      | .error f => .error (invalid (f.report pattern))
      | .ok r =>
        if r.isTooLarge then
          .error (invalid s!"Compiled regex exceeds size limit of {sizeLimit} bytes.")
        else .ok r.program

end LuaSession.Pattern
