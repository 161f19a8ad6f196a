import Mathlib.Data.List.Induction
import Mathlib.Data.List.InsertIdx
import Mathlib.Data.List.Perm.Basic
import LuaSession.Proofs.Capture

/-!
# Guards that end in any order

A guard gives back what was active when it began, whatever is active by now. Only the oldest guard
keeps that nothing was captured before it. So output is captured exactly while some guard has not
ended if the oldest one ends last, as it does in every well-nested use.

* `Use.capturing_while_alive`: when a sink captures, for guards that end in any order.
* `Use.capture_outlives`: what becomes of a sink where the older of two guards ends first.
-/

namespace LuaSession.Sink

/-- The place of the guard that a call ends. -/
def Call.ends? : Call → Option Nat
  | .finish place | .drop place => some place
  | .begin | .write .. => none

namespace Use

variable {u : Use} {c : Call}

theorem run_concat (u : Use) (calls : List Call) (c : Call) :
    u.run (calls ++ [c]) = (u.run calls).step c := by
  rw [run_append]
  rfl

/-! ### One call -/

/-- No guard that is left has given back what it keeps. -/
def Unrestored (u : Use) : Prop := ∀ g ∈ u.guards, g.restored = false

/-- A call that ends a guard makes active what the guard keeps. -/
theorem step_ends (hu : u.Unrestored) {place : Nat} (hc : c.ends? = some place) {g : Guard}
    (hg : u.guards[place]? = some g) :
    (u.step c).sink = ⟨g.previous⟩ ∧ (u.step c).guards = u.guards.eraseIdx place := by
  have hr : g.restored = false := hu g (List.mem_of_getElem? hg)
  cases c with
  | begin | write => cases hc
  | finish p =>
    cases hc
    simp [step, hg, finish, Guard.restore, hr, discard]
  | drop p =>
    cases hc
    simp [step, hg, Guard.restore, hr, discard]

theorem length_ends (hu : u.Unrestored) {place : Nat} (hc : c.ends? = some place)
    (hlt : place < u.guards.length) : (u.step c).guards.length + 1 = u.guards.length := by
  rw [(step_ends hu hc (List.getElem?_eq_getElem hlt)).2, List.length_eraseIdx_of_lt hlt]
  omega

/-- A call that finds no guard to end does nothing. -/
theorem step_ends_none {place : Nat} (hc : c.ends? = some place) (hg : u.guards[place]? = none) :
    u.step c = u := by
  cases c with
  | begin | write => cases hc
  | finish p =>
    cases hc
    simp [step, hg]
  | drop p =>
    cases hc
    simp [step, hg]

theorem Unrestored.step (hu : u.Unrestored) (c : Call) : (u.step c).Unrestored := by
  intro g hg
  cases hc : c.ends? with
  | none =>
    cases c with
    | begin =>
      rcases List.mem_cons.mp hg with rfl | hg
      · rfl
      · exact hu g hg
    | write => exact hu g hg
    | finish | drop => cases hc
  | some place =>
    cases hplace : u.guards[place]? with
    | none =>
      rw [step_ends_none hc hplace] at hg
      exact hu g hg
    | some ended =>
      rw [(step_ends hu hc hplace).2] at hg
      exact hu g (List.mem_of_mem_eraseIdx hg)

theorem unrestored_run (calls : List Call) : (run {} calls).Unrestored := by
  induction calls using List.reverseRecOn with
  | nil =>
    intro g hg
    cases hg
  | append_singleton calls c ih =>
    rw [run_concat]
    exact ih.step c

/-! ### The oldest guard ends last -/

/-- What is active, and behind it what the guards keep, the newest first. -/
def held (u : Use) : List (Option Captured) := u.sink.active :: u.guards.map (·.previous)

/-- Only the oldest guard keeps that nothing was captured; without guards nothing is. -/
def Layered (u : Use) : Prop :=
  ∀ i x, u.held[i]? = some x → (x = none ↔ i = u.guards.length)

/-- The call does not end the oldest guard before others. -/
def SparesOldest (u : Use) (c : Call) : Prop :=
  ∀ place, c.ends? = some place → place + 1 = u.guards.length → place = 0

/-- Output is captured exactly while some guard has not ended. -/
theorem Layered.capturing_iff (h : u.Layered) : u.sink.isCapturing = true ↔ u.guards ≠ [] := by
  have hactive : u.sink.active = none ↔ 0 = u.guards.length := h 0 u.sink.active rfl
  unfold isCapturing
  constructor
  · intro hsome hnil
    rw [hactive.mpr (by rw [hnil, List.length_nil])] at hsome
    cases hsome
  · intro hguards
    cases hx : u.sink.active with
    | some captured => rfl
    | none => exact absurd (List.length_eq_zero_iff.mp (hactive.mp hx).symm) hguards

theorem Layered.step (h : u.Layered) (hu : u.Unrestored) (hc : u.SparesOldest c) :
    (u.step c).Layered := by
  cases hends : c.ends? with
  | none =>
    cases c with
    | begin =>
      intro i x hx
      cases i with
      | zero =>
        cases hx
        simp [Use.step, Sink.capture]
      | succ i =>
        have hi := h i x hx
        simpa [Use.step] using hi
    | write channel text =>
      intro i x hx
      cases i with
      | zero =>
        have hi := h 0 u.sink.active rfl
        cases hx
        simpa [Use.step, Sink.write] using hi
      | succ i => exact h (i + 1) x hx
    | finish | drop => cases hends
  | some place =>
    cases hg : u.guards[place]? with
    | none =>
      rw [step_ends_none hends hg]
      exact h
    | some g =>
      obtain ⟨hsink, hguards⟩ := step_ends hu hends hg
      have hlt : place < u.guards.length := (List.getElem?_eq_some_iff.mp hg).1
      have hspares := hc place hends
      have hlength := length_ends hu hends hlt
      intro i x hx
      rw [held, hsink, hguards, ← List.eraseIdx_map] at hx
      cases i with
      | zero =>
        have hi := h (place + 1) g.previous (by simp [held, hg])
        cases hx
        rw [hi]
        omega
      | succ i =>
        rw [List.getElem?_cons_succ, List.getElem?_eraseIdx] at hx
        split at hx
        · rw [h (i + 1) x hx]
          omega
        · rw [h (i + 2) x hx]
          omega

/-- Where the oldest guard ends before others, nothing is captured although these have not ended. -/
theorem Layered.step_oldest (h : u.Layered) (hu : u.Unrestored) (hc : ¬u.SparesOldest c) :
    (u.step c).sink.isCapturing = false ∧ (u.step c).guards ≠ [] := by
  simp only [SparesOldest, not_forall] at hc
  obtain ⟨place, hends, hlast, hplace⟩ := hc
  have hlt : place < u.guards.length := by omega
  have hg := List.getElem?_eq_getElem hlt
  have hprevious := (h (place + 1) u.guards[place].previous (by simp [held, hg])).mpr hlast
  constructor
  · rw [(step_ends hu hends hg).1, hprevious]
    rfl
  · intro hnil
    have hlength := length_ends hu hends hlt
    rw [hnil, List.length_nil] at hlength
    omega

/-- In a run no call ends the oldest guard before others. -/
def OldestLast (calls : List Call) : Prop :=
  ∀ before c, before ++ [c] <+: calls → (run {} before).SparesOldest c

theorem layered_run {calls : List Call}
    (h : ∀ before c, before ++ [c] <+: calls → (run {} before).Layered →
      (run {} before).SparesOldest c) : (run {} calls).Layered := by
  induction calls using List.reverseRecOn with
  | nil =>
    intro i x hx
    cases i with
    | zero =>
      cases hx
      exact iff_of_true rfl rfl
    | succ i => cases hx
  | append_singleton calls c ih =>
    have hcalls := ih fun before c hpre => h before c (hpre.trans (List.prefix_append _ _))
    rw [run_concat]
    exact hcalls.step (unrestored_run calls) (h calls c (List.prefix_refl _) hcalls)

/-- Output is captured exactly while some guard has not ended, all through a run, if and only if the
oldest guard ends last. -/
theorem capturing_iff_oldestLast (calls : List Call) :
    (∀ before, before <+: calls →
      ((run {} before).sink.isCapturing = true ↔ (run {} before).guards ≠ [])) ↔
    OldestLast calls := by
  constructor
  · intro h
    have hspares (before : List Call) (c : Call) (hpre : before ++ [c] <+: calls)
        (hlayered : (run {} before).Layered) : (run {} before).SparesOldest c := by
      by_contra hc
      obtain ⟨hcapturing, hguards⟩ := hlayered.step_oldest (unrestored_run before) hc
      rw [← run_concat] at hcapturing hguards
      rw [(h _ hpre).mpr hguards] at hcapturing
      cases hcapturing
    intro before c hpre
    refine hspares before c hpre (layered_run fun before' c' hpre' => ?_)
    exact hspares before' c' (hpre'.trans ((List.prefix_append _ _).trans hpre))
  · intro h before hpre
    exact (layered_run fun before' c' hpre' _ =>
      h before' c' (hpre'.trans hpre)).capturing_iff

/-! ### After all guards -/

/-- The call ends a guard while nothing is captured. -/
def TakesNothing (u : Use) (c : Call) : Prop :=
  u.sink.isCapturing = false ∧ ∃ place, c.ends? = some place ∧ place < u.guards.length

/-- In a run some guard is ended while nothing is captured. -/
def EndsUncaptured (calls : List Call) : Prop :=
  ∃ before c, before ++ [c] <+: calls ∧ (run {} before).TakesNothing c

theorem endsUncaptured_concat (calls : List Call) (c : Call) :
    EndsUncaptured (calls ++ [c]) ↔ EndsUncaptured calls ∨ (run {} calls).TakesNothing c := by
  constructor
  · rintro ⟨before, c', hpre, h⟩
    rcases List.prefix_concat_iff.mp hpre with heq | hpre
    · obtain ⟨rfl, hc⟩ := List.append_inj' heq rfl
      cases hc
      exact .inr h
    · exact .inl ⟨before, c', hpre, h⟩
  · rintro (⟨before, c', hpre, h⟩ | h)
    · exact ⟨before, c', hpre.trans (List.prefix_append _ _), h⟩
    · exact ⟨calls, c, List.prefix_refl _, h⟩

/-- How many captures there are, active or kept by a guard. -/
def captures (u : Use) : Nat := u.held.countP (·.isSome)

theorem captures_eq (u : Use) :
    u.captures = (u.guards.map (·.previous)).countP (·.isSome) +
      if u.sink.isCapturing then 1 else 0 := by
  rw [captures, held, List.countP_cons]
  rfl

/-- A guard that ends takes what was active with it. -/
theorem captures_ends (hu : u.Unrestored) {place : Nat} (hc : c.ends? = some place)
    (hlt : place < u.guards.length) :
    (u.step c).captures + (if u.sink.isCapturing then 1 else 0) = u.captures := by
  obtain ⟨hsink, hguards⟩ := step_ends hu hc (List.getElem?_eq_getElem hlt)
  have hperm : (u.step c).held.Perm (u.guards.map (·.previous)) := by
    rw [held, hsink, hguards, ← List.eraseIdx_map]
    have h := List.getElem_cons_eraseIdx_perm (l := u.guards.map (·.previous)) (n := place)
      (by simpa using hlt)
    simpa using h
  rw [captures, hperm.countP_eq, captures_eq]

/-- Otherwise as many captures come and go as guards. -/
theorem captures_step (hu : u.Unrestored) (hc : ¬u.TakesNothing c) :
    (u.step c).captures + u.guards.length = u.captures + (u.step c).guards.length := by
  cases hends : c.ends? with
  | none =>
    cases c with
    | begin =>
      have hcaptures : (u.step .begin).captures = u.captures + 1 := List.countP_cons_of_pos rfl
      have hguards : (u.step .begin).guards.length = u.guards.length + 1 := rfl
      omega
    | write channel text => simp [step, captures, held, List.countP_cons, write]
    | finish | drop => cases hends
  | some place =>
    by_cases hlt : place < u.guards.length
    · have hcapturing : u.sink.isCapturing = true := by
        by_contra h
        exact hc ⟨Bool.eq_false_iff.mpr h, place, hends, hlt⟩
      have hcaptures := captures_ends hu hends hlt
      have hlength := length_ends hu hends hlt
      rw [if_pos hcapturing] at hcaptures
      omega
    · rw [step_ends_none hends (List.getElem?_eq_none (Nat.le_of_not_lt hlt))]

theorem captures_takesNothing (hu : u.Unrestored) (hc : u.TakesNothing c)
    (h : u.guards.length ≤ u.captures) :
    (u.step c).captures = (u.step c).guards.length + 1 := by
  obtain ⟨hcapturing, place, hends, hlt⟩ := hc
  have hcaptures := captures_ends hu hends hlt
  have hlength := length_ends hu hends hlt
  have hle : (u.guards.map (·.previous)).countP (·.isSome) ≤ u.guards.length := by
    simpa using List.countP_le_length (l := u.guards.map (·.previous)) (p := (·.isSome))
  have heq := captures_eq u
  simp only [hcapturing, Bool.false_eq_true, if_false] at hcaptures heq
  omega

/-- There is a capture for each guard, and one more once a guard was ended while nothing was captured.
The induction is on the calls, the last one first: a guard that takes no capture with it leaves over
one for which there is no guard. -/
theorem captures_run (calls : List Call) :
    (¬EndsUncaptured calls ∧ (run {} calls).captures = (run {} calls).guards.length) ∨
      (EndsUncaptured calls ∧ (run {} calls).captures = (run {} calls).guards.length + 1) := by
  induction calls using List.reverseRecOn with
  | nil =>
    refine .inl ⟨?_, rfl⟩
    rintro ⟨before, c, hpre, -⟩
    simp at hpre
  | append_singleton calls c ih =>
    have hu := unrestored_run calls
    rw [run_concat, endsUncaptured_concat]
    by_cases hc : (run {} calls).TakesNothing c
    · refine .inr ⟨.inr hc, captures_takesNothing hu hc ?_⟩
      rcases ih with ⟨-, h⟩ | ⟨-, h⟩
      · exact Nat.le_of_eq h.symm
      · exact h ▸ Nat.le_succ _
    · have hstep := captures_step hu hc
      rcases ih with ⟨hnot, h⟩ | ⟨hends, h⟩
      · exact .inl ⟨fun hor => hor.elim hnot hc, by omega⟩
      · exact .inr ⟨.inl hends, by omega⟩

/-- Texts that are written where nothing is captured leave no trace. -/
theorem run_texts (h : u.sink.isCapturing = false) (texts : List (Channel × String)) :
    u.run (texts.map fun t => .write t.1 t.2) = u := by
  have hactive : u.sink.active = none := Option.not_isSome_iff_eq_none.mp (Bool.eq_false_iff.mp h)
  induction texts with
  | nil => rfl
  | cons t texts ih =>
    have hstep : u.step (.write t.1 t.2) = u := by
      obtain ⟨⟨active⟩, guards, results⟩ := u
      cases hactive
      rfl
    rw [List.map_cons, run_cons, hstep]
    exact ih

/-- When a sink captures, whatever was done with it. All through a run it does exactly while some guard
has not ended, if and only if the oldest guard always ends last. When all guards have ended it does
exactly if some guard was ended while nothing was captured, and otherwise what is written then is in
no capture. -/
theorem capturing_while_alive (calls : List Call) :
    ((∀ before, before <+: calls →
      ((run {} before).sink.isCapturing = true ↔ (run {} before).guards ≠ [])) ↔
      OldestLast calls) ∧
    ((run {} calls).guards = [] →
      ((run {} calls).sink.isCapturing = true ↔ EndsUncaptured calls) ∧
      (¬EndsUncaptured calls → ∀ texts : List (Channel × String),
        run {} (calls ++ texts.map fun t => .write t.1 t.2) = run {} calls)) := by
  refine ⟨capturing_iff_oldestLast calls, fun hguards => ?_⟩
  have hiff : (run {} calls).sink.isCapturing = true ↔ EndsUncaptured calls := by
    have hcaptures := captures_run calls
    rw [captures_eq, hguards] at hcaptures
    cases hcapturing : (run {} calls).sink.isCapturing <;> simp_all
  refine ⟨hiff, fun hnot texts => ?_⟩
  rw [run_append]
  exact run_texts (Bool.eq_false_iff.mpr fun h => hnot (hiff.mp h)) texts

/-- The older of two guards ends first. Then nothing is captured although the other has not ended; and
when that one ends, what was captured by the older one is active again although none is left. -/
theorem capture_outlives :
    let calls : List Call := [.begin, .write .out "a", .begin, .finish 1]
    (run {} calls).guards.length = 1 ∧ (run {} calls).sink.isCapturing = false ∧
    (run {} (calls ++ [.finish 0])).guards = [] ∧
    (run {} (calls ++ [.finish 0, .write .out "b"])).sink.active = some ⟨"ab", ""⟩ := by
  decide

end Use

end LuaSession.Sink
