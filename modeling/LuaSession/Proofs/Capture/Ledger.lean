import Mathlib.Data.List.Nodup
import Mathlib.Data.List.ReduceOption
import LuaSession.Proofs.Capture.Guards

/-!
# Where captured texts are

A ledger follows a use of a sink by the numbers of the captures instead of their texts. It says which
capture is active, which ones the guards keep and which ones ended with a guard, and to which capture
each text went when it was written. From it the use can be told exactly, whatever the order in which
guards end.

* `Ledger.use_run`: a use is what its ledger says.
* `Ledger.sound_run`: every capture that began is in one place.
* `Ledger.texts_stay`: what becomes of texts and of captures that ended.
-/

namespace LuaSession.Sink

/-- A text with the capture that was active when it was written. -/
structure Entry where
  capture : Option Nat
  channel : Channel
  text : String
  deriving DecidableEq, Repr

/-- Captures are numbered in the order in which they begin. `kept` is what was active before each
guard that has not ended, the newest first, and `ended` what was active when a guard ended. -/
structure Ledger where
  begun : Nat := 0
  active : Option Nat := none
  kept : List (Option Nat) := []
  ended : List (Ending × Option Nat) := []
  entries : List Entry := []
  deriving DecidableEq, Repr

/-- The texts of a capture on a stream, in the order in which they were written. -/
def textOf (entries : List Entry) (n : Nat) (channel : Channel) : String :=
  String.join ((entries.filter fun e => e.capture = some n ∧ e.channel = channel).map (·.text))

/-- What a capture has captured. -/
def capturedIn (entries : List Entry) (n : Nat) : Captured :=
  ⟨textOf entries n .out, textOf entries n .err⟩

/-- The call that ends the guard at a place. -/
def Ending.callAt (place : Nat) : Ending → Call
  | .finish => .finish place
  | .drop => .drop place

namespace Ledger

/-- Ends the guard at a place, if there is one. -/
def close (l : Ledger) (ending : Ending) (place : Nat) : Ledger :=
  match l.kept[place]? with
  | none => l
  | some previous =>
    { l with
      active := previous
      kept := l.kept.eraseIdx place
      ended := l.ended ++ [(ending, l.active)] }

/-- Enters a call. -/
def step (l : Ledger) : Call → Ledger
  | .begin =>
    { l with begun := l.begun + 1, active := some l.begun, kept := l.active :: l.kept }
  | .write channel text => { l with entries := l.entries ++ [⟨l.active, channel, text⟩] }
  | .finish place => l.close .finish place
  | .drop place => l.close .drop place

/-- Enters calls, one after the other. -/
def run (l : Ledger) (calls : List Call) : Ledger := calls.foldl step l

theorem run_concat (l : Ledger) (calls : List Call) (c : Call) :
    l.run (calls ++ [c]) = (l.run calls).step c := by
  simp [run]

/-- What the guard gave that ended with a capture, or with none. -/
def resultOf (entries : List Entry) : Ending × Option Nat → Option Captured
  | (.finish, capture) => some ((capture.map (capturedIn entries)).getD {})
  | (.drop, _) => none

/-- The use that a ledger tells. -/
def use (l : Ledger) : Use where
  sink := ⟨l.active.map (capturedIn l.entries)⟩
  guards := l.kept.map fun capture => ⟨capture.map (capturedIn l.entries), false⟩
  results := l.ended.filterMap (resultOf l.entries)

/-- The captures in all places: the active one, those that guards keep, and those that ended. -/
def captures (l : Ledger) : List Nat :=
  (l.active :: l.kept ++ l.ended.map (·.2)).reduceOption

/-! ### What is captured -/

/-- A text is added to what its capture has captured, and to nothing else. -/
theorem capturedIn_concat (entries : List Entry) (e : Entry) (n : Nat) :
    capturedIn (entries ++ [e]) n =
      if e.capture = some n then (capturedIn entries n).append e.channel e.text
      else capturedIn entries n := by
  have htext (channel : Channel) : textOf (entries ++ [e]) n channel =
      textOf entries n channel ++
        if e.capture = some n ∧ e.channel = channel then e.text else "" := by
    rw [textOf, List.filter_append, List.map_append, String.join_append, ← textOf]
    by_cases h : e.capture = some n ∧ e.channel = channel
    · simp [h]
    · simp [h]
  rw [capturedIn, htext, htext]
  by_cases h : e.capture = some n
  · cases hc : e.channel <;> simp [h, capturedIn, Captured.append]
  · simp [h, capturedIn]

/-- A capture to which no text went is empty. -/
theorem capturedIn_of_forall {entries : List Entry} {n : Nat}
    (h : ∀ e ∈ entries, e.capture ≠ some n) : capturedIn entries n = {} := by
  have htext (channel : Channel) : textOf entries n channel = "" := by
    have hnil : (entries.filter fun e => e.capture = some n ∧ e.channel = channel) = [] := by
      refine List.filter_eq_nil_iff.mpr fun e he => ?_
      simp [h e he]
    rw [textOf, hnil]
    rfl
  rw [capturedIn, htext, htext]

/-! ### One call -/

/-- Every capture that began is in one place, and texts went to such captures. -/
structure Sound (l : Ledger) : Prop where
  perm : l.captures.Perm (List.range l.begun)
  begun : ∀ e ∈ l.entries, ∀ n, e.capture = some n → n < l.begun

variable {l : Ledger}

theorem Sound.nodup (h : l.Sound) : l.captures.Nodup :=
  h.perm.nodup_iff.mpr List.nodup_range

/-- The active capture is in no other place. -/
theorem Sound.active (h : l.Sound) {n : Nat} (hn : l.active = some n) :
    n < l.begun ∧ some n ∉ l.kept ∧ some n ∉ l.ended.map (·.2) := by
  have hnodup := h.nodup
  have hmem : n ∈ l.captures := by
    rw [captures, hn]
    exact List.mem_cons_self
  rw [captures, hn, List.cons_append, List.reduceOption_cons_of_some, List.nodup_cons,
    List.reduceOption_mem_iff, List.mem_append, not_or] at hnodup
  exact ⟨List.mem_range.mp (h.perm.mem_iff.mp hmem), hnodup.1⟩

section Close

variable (l : Ledger) (ending : Ending) (place : Nat)

@[simp] theorem close_begun : (l.close ending place).begun = l.begun := by
  unfold close
  split <;> rfl

@[simp] theorem close_entries : (l.close ending place).entries = l.entries := by
  unfold close
  split <;> rfl

theorem close_ended : l.ended <+: (l.close ending place).ended := by
  unfold close
  split
  · exact List.prefix_refl _
  · exact List.prefix_append _ _

/-- The end of a guard moves captures from one place to another. -/
theorem captures_close : (l.close ending place).captures.Perm l.captures := by
  unfold close
  split
  · exact .refl _
  · rename_i previous hprevious
    obtain ⟨hlt, rfl⟩ := List.getElem?_eq_some_iff.mp hprevious
    refine List.Perm.filterMap _ ?_
    have hkept := List.getElem_cons_eraseIdx_perm hlt
    dsimp only
    rw [List.map_append, List.map_singleton, ← List.append_assoc]
    refine (List.perm_append_singleton _ _).trans (.cons _ ?_)
    exact hkept.append_right _

end Close

theorem Sound.close (h : l.Sound) (ending : Ending) (place : Nat) : (l.close ending place).Sound where
  perm := by
    rw [close_begun]
    exact (captures_close l ending place).trans h.perm
  begun := by
    rw [close_begun, close_entries]
    exact h.begun

theorem Sound.step (h : l.Sound) (c : Call) : (l.step c).Sound := by
  cases c with
  | begin =>
    refine ⟨?_, fun e he n hn => Nat.lt_succ_of_lt (h.begun e he n hn)⟩
    change (l.begun :: l.captures).Perm (List.range (l.begun + 1))
    rw [List.range_succ]
    exact (h.perm.cons _).trans (List.perm_append_singleton _ _).symm
  | write channel text =>
    refine ⟨h.perm, fun e he n hn => ?_⟩
    rcases List.mem_append.mp he with he | he
    · exact h.begun e he n hn
    · rw [List.mem_singleton.mp he] at hn
      exact (h.active hn).1
  | finish place => exact h.close .finish place
  | drop place => exact h.close .drop place

/-- What is captured elsewhere than in the active capture does not change by a text. -/
theorem map_capturedIn_concat (channel : Channel) (text : String) {capture : Option Nat}
    (h : ∀ n, l.active = some n → capture ≠ some n) :
    capture.map (capturedIn (l.entries ++ [⟨l.active, channel, text⟩])) =
      capture.map (capturedIn l.entries) := by
  cases capture with
  | none => rfl
  | some n =>
    have hne : l.active ≠ some n := fun hn => h n hn rfl
    simp [capturedIn_concat, hne]

theorem Sound.use_write (h : l.Sound) (channel : Channel) (text : String) :
    l.use.step (.write channel text) = (l.step (.write channel text)).use := by
  have hkept (capture : Option Nat) (hc : capture ∈ l.kept) :=
    map_capturedIn_concat channel text fun n hn => ne_of_mem_of_not_mem hc (h.active hn).2.1
  have hended (e : Ending × Option Nat) (he : e ∈ l.ended) :=
    map_capturedIn_concat channel text fun n hn =>
      ne_of_mem_of_not_mem (List.mem_map_of_mem he) (h.active hn).2.2
  have hactive : (l.active.map (capturedIn l.entries)).map (·.append channel text) =
      l.active.map (capturedIn (l.entries ++ [⟨l.active, channel, text⟩])) := by
    cases hn : l.active with
    | none => rfl
    | some n => simp [capturedIn_concat]
  have hguards : (l.kept.map fun capture => Guard.mk (capture.map (capturedIn l.entries)) false) =
      l.kept.map fun capture => ⟨capture.map
        (capturedIn (l.entries ++ [⟨l.active, channel, text⟩])), false⟩ :=
    List.map_congr_left fun capture hc => by rw [hkept capture hc]
  have hresults : l.ended.filterMap (resultOf l.entries) =
      l.ended.filterMap (resultOf (l.entries ++ [⟨l.active, channel, text⟩])) := by
    refine List.filterMap_congr fun e he => ?_
    obtain ⟨ending, capture⟩ := e
    cases ending with
    | finish => simp only [resultOf, hended _ he]
    | drop => rfl
  simp only [use, Use.step, Ledger.step, write, hactive, hguards, hresults]

theorem use_close (l : Ledger) (ending : Ending) (place : Nat) :
    l.use.step (ending.callAt place) = (l.close ending place).use := by
  cases hplace : l.kept[place]? with
  | none => cases ending <;> simp [use, Use.step, Ending.callAt, close, hplace]
  | some previous =>
    cases ending <;>
      simp [use, Use.step, Ending.callAt, close, hplace, finish, discard, Guard.restore,
        List.eraseIdx_map, resultOf]

/-- A use goes on as its ledger does. -/
theorem Sound.use_step (h : l.Sound) (c : Call) : l.use.step c = (l.step c).use := by
  cases c with
  | begin =>
    have hnew : capturedIn l.entries l.begun = {} :=
      capturedIn_of_forall fun e he hn => Nat.lt_irrefl _ (h.begun e he _ hn)
    simp [use, Use.step, Ledger.step, capture, hnew]
  | write channel text => exact h.use_write channel text
  | finish place => exact use_close l .finish place
  | drop place => exact use_close l .drop place

/-! ### All calls -/

theorem sound_run (calls : List Call) : (run {} calls).Sound := by
  induction calls using List.reverseRecOn with
  | nil => exact ⟨.refl _, List.forall_mem_nil _⟩
  | append_singleton calls c ih =>
    rw [run_concat]
    exact ih.step c

/-- A use is what its ledger says. -/
theorem use_run (calls : List Call) : Use.run {} calls = (run {} calls).use := by
  induction calls using List.reverseRecOn with
  | nil => rfl
  | append_singleton calls c ih =>
    rw [Use.run_concat, run_concat, ih]
    exact (sound_run calls).use_step c

/-! ### What becomes of texts and captures -/

/-- The call writes a text. -/
def writes : Call → Bool
  | .write .. => true
  | _ => false

/-- The texts are entered in the order in which they are written. -/
theorem entries_run (calls : List Call) :
    (run {} calls).entries.map (fun e => Call.write e.channel e.text) = calls.filter writes := by
  induction calls using List.reverseRecOn with
  | nil => rfl
  | append_singleton calls c ih =>
    rw [run_concat, List.filter_append, ← ih]
    cases c <;> simp [Ledger.step, writes, List.filter_singleton]

/-- What was entered stays. -/
theorem run_mono {before calls : List Call} (h : before <+: calls) :
    (run {} before).entries <+: (run {} calls).entries ∧
      (run {} before).ended <+: (run {} calls).ended := by
  obtain ⟨after, rfl⟩ := h
  induction after using List.reverseRecOn with
  | nil => simp
  | append_singleton after c ih =>
    rw [← List.append_assoc, run_concat]
    generalize run {} (before ++ after) = l at ih
    have hstep : l.entries <+: (l.step c).entries ∧ l.ended <+: (l.step c).ended := by
      cases c with
      | begin => simp [step]
      | write => simp [step]
      | finish place => exact ⟨by simp [step], close_ended l .finish place⟩
      | drop place => exact ⟨by simp [step], close_ended l .drop place⟩
    exact ⟨ih.1.trans hstep.1, ih.2.trans hstep.2⟩

theorem count_reduceOption (captures : List (Option Nat)) (n : Nat) :
    captures.reduceOption.count n = captures.count (some n) := by
  induction captures with
  | nil => rfl
  | cons capture captures ih =>
    cases capture with
    | none => simp [List.reduceOption_cons_of_none, ih]
    | some m => simp [List.reduceOption_cons_of_some, List.count_cons, ih]

/-- A capture that ended is in no other place. -/
theorem Sound.ended (h : l.Sound) {ending : Ending} {n : Nat} (hn : (ending, some n) ∈ l.ended) :
    l.active ≠ some n ∧ some n ∉ l.kept ∧ (l.ended.map (·.2)).count (some n) = 1 := by
  have hpos : 0 < (l.ended.map (·.2)).count (some n) :=
    List.count_pos_iff.mpr (List.mem_map_of_mem hn)
  have hle : l.captures.count n ≤ 1 := List.nodup_iff_count_le_one.mp h.nodup n
  rw [captures, count_reduceOption, List.cons_append, List.count_cons, List.count_append] at hle
  refine ⟨fun hactive => ?_, fun hkept => ?_, by omega⟩
  · rw [hactive, if_pos (beq_self_eq_true _)] at hle
    omega
  · have := List.count_pos_iff.mpr hkept
    omega

/-- What becomes of every text and every capture, in whatever order guards end. The use is what its
ledger says, so a result of a guard is made of the texts that went to one capture, in the order in which
they were written, and of nothing else. Every text went to the capture that was active when it was
written, if output was captured then. Every capture that began is in one place; one that ended is never
active again, and it ended once. -/
theorem texts_stay (calls : List Call) :
    let l := run {} calls
    Use.run {} calls = l.use ∧
    l.entries.map (fun e => Call.write e.channel e.text) = calls.filter writes ∧
    (∀ before channel text, before ++ [.write channel text] <+: calls →
      (run {} before).entries ++ [⟨(run {} before).active, channel, text⟩] <+: l.entries ∧
      (run {} before).active.isSome = (Use.run {} before).sink.isCapturing) ∧
    l.captures.Perm (List.range l.begun) ∧
    ∀ before ending n, before <+: calls → (ending, some n) ∈ (run {} before).ended →
      l.active ≠ some n ∧ some n ∉ l.kept ∧ (l.ended.map (·.2)).count (some n) = 1 := by
  refine ⟨use_run calls, entries_run calls, fun before channel text hpre => ⟨?_, ?_⟩,
    (sound_run calls).perm, fun before ending n hpre hended => ?_⟩
  · have hstep := (run_mono hpre).1
    rwa [run_concat] at hstep
  · rw [use_run, use, isCapturing, Option.isSome_map]
  · exact (sound_run calls).ended ((run_mono hpre).2.subset hended)

/-- Two guards end in the order in which they began. The text that is written between is captured by
none, and the one before goes with the guard that is the first to end. -/
example :
    let calls : List Call :=
      [.begin, .begin, .write .out "a", .finish 1, .write .out "b", .finish 0]
    (run {} calls).entries = [⟨some 1, .out, "a"⟩, ⟨none, .out, "b"⟩] ∧
    (run {} calls).ended = [(.finish, some 1), (.finish, none)] ∧
    (run {} calls).active = some 0 := by
  decide

end Ledger

end LuaSession.Sink
