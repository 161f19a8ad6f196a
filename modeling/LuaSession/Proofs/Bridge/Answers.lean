import Mathlib.Data.List.Forall2
import LuaSession.Bridge.Basic
import LuaSession.Proofs.Json.Contents

/-!
# What the answers to a batch say

The reply to a batch of prompts becomes one string for each prompt. An array with as many elements as
there are prompts answers each prompt by its own element; any other reply answers every prompt by the
whole of it.

* `Told`: the string that tells a value.
* `answers_answered`: what each of the strings tells.
-/

namespace LuaSession.Bridge

/-- A string tells itself. Any other value is told by its written form, from which it is read back if all
its numbers are integers. -/
inductive Told : Json → String → Prop
  | text (s : String) : Told (.str s) s
  | written {v : Json} : (∀ s, v ≠ .str s) → (v.Integral → Json.parse v.chars = .ok v) →
      Told v (String.ofList v.chars)

/-- The strings that answer so many prompts by a reply. -/
structure Answered (reply : Json) (n : Nat) (strings : List String) : Prop where
  length : strings.length = n
  each : ∀ items : List Json, reply = .arr items → items.length = n →
    List.Forall₂ Told items strings
  whole : (∀ items : List Json, reply = .arr items → items.length ≠ n) →
    ∀ s ∈ strings, Told reply s
  texts : ∀ replies : List String, reply = .arr (replies.map .str) → replies.length = n →
    strings = replies

variable {depth : Nat} {t : List Char} {v : Json}

/-- What is written for a value that was read is read as the value. -/
theorem told_display (h : Json.Value depth t v) (hdepth : depth ≤ Json.maxDepth) :
    Told v v.display := by
  have hread (hv : v.Integral) : Json.parse v.chars = .ok v :=
    Json.parse_chars (h.exact hv) (Nat.le_trans h.depth_le hdepth)
  cases v with
  | str s => exact .text s
  | null | bool | int | float | arr | obj => exact .written nofun hread

/-- What the strings say that a reply is made into. -/
theorem answers_answered (h : Json.Value depth t v) (hdepth : depth ≤ Json.maxDepth) (n : Nat) :
    Answered v n (answers v n) := by
  have hwhole : ∀ s ∈ List.replicate n v.display, Told v s := by
    intro s hs
    rw [(List.mem_replicate.mp hs).2]
    exact told_display h hdepth
  refine ⟨length_answers v n, ?_, ?_, ?_⟩
  · rintro items rfl rfl
    rw [answers, if_pos rfl, List.forall₂_map_right_iff, List.forall₂_same]
    intro item hitem
    obtain ⟨below, u, rfl, hu⟩ := h.item hitem
    exact told_display hu (Nat.le_of_succ_le hdepth)
  · intro hlength
    unfold answers
    split
    · rename_i items
      rw [if_neg (hlength items rfl)]
      exact hwhole
    · exact hwhole
  · rintro replies rfl rfl
    rw [answers, if_pos (List.length_map _), List.map_map]
    exact List.map_id' replies

end LuaSession.Bridge
