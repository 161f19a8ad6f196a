/-!
# Capturing output

Output goes to the capture that is active, if any. A capture that begins keeps what was active
before it, and when it ends, in whatever order captures end, that becomes active again; ending it
gives what was active at that time.
-/

namespace LuaSession

/-- The two streams of output. -/
inductive Channel
  | out
  | err
  deriving DecidableEq, Repr

/-- The texts written while a capture was active. -/
structure Captured where
  out : String := ""
  err : String := ""
  deriving DecidableEq, Repr

/-- Adds a text to one stream. -/
def Captured.append (c : Captured) (channel : Channel) (text : String) : Captured :=
  match channel with
  | .out => { c with out := c.out ++ text }
  | .err => { c with err := c.err ++ text }

/-- Where output goes: the active capture. -/
structure Sink where
  active : Option Captured := none
  deriving DecidableEq, Repr

/-- A capture that has begun: what was active before it, and whether it has given that back. -/
structure Guard where
  previous : Option Captured
  restored : Bool
  deriving DecidableEq, Repr

/-- Makes active again what was active before a capture, once. Gives what was active until then. -/
def Guard.restore (g : Guard) (s : Sink) : Option Captured × Guard × Sink :=
  if g.restored then (none, g, s)
  else (s.active, ⟨none, true⟩, ⟨g.previous⟩)

namespace Sink

/-- Whether output is captured. -/
def isCapturing (s : Sink) : Bool :=
  s.active.isSome

/-- Writes a text; without an active capture it is not kept. -/
def write (s : Sink) (channel : Channel) (text : String) : Sink :=
  ⟨s.active.map fun c => c.append channel text⟩

/-- Begins a capture. -/
def capture (s : Sink) : Guard × Sink :=
  (⟨s.active, false⟩, ⟨some {}⟩)

/-- Ends a capture without a result. -/
def discard (s : Sink) (g : Guard) : Sink :=
  (g.restore s).2.2

/-- Ends a capture: what was active becomes its result, empty when nothing was, and what was active
before it becomes active. The guard is discarded after that. -/
def finish (s : Sink) (g : Guard) : Captured × Sink :=
  let (ended, g, s) := g.restore s
  (ended.getD {}, s.discard g)

@[simp]
theorem restore_capture (s t : Sink) :
    s.capture.1.restore t = (t.active, ⟨none, true⟩, ⟨s.active⟩) := rfl

/-- A guard that has restored what it kept does nothing more. -/
@[simp]
theorem discard_restored (s : Sink) (previous : Option Captured) :
    s.discard ⟨previous, true⟩ = s := rfl

theorem isCapturing_write (s : Sink) (channel : Channel) (text : String) :
    (s.write channel text).isCapturing = s.isCapturing := by
  cases h : s.active <;> simp [isCapturing, write, h]

/-- A capture that ends at once leaves what was active before it. -/
theorem finish_capture (s : Sink) : s.capture.2.finish s.capture.1 = ({}, s) := rfl

end Sink

end LuaSession
