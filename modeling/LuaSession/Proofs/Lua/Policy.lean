import LuaSession.Lua.Task
import LuaSession.Proofs.Lua.Slots

/-!
# Policies

A policy says what an evaluation keeps to: a property of the memory that holds at every step, and the
requests that may be made. `Step.Obeys` follows a step through all answers it may get, so a step that
obeys a policy does so however the outside and the machine answer it. `Task.Obeys` is the same for a
computation, whatever comes after it.

* `Task.Obeys.bind`: parts that obey a policy obey it together.
* `Policy.Stable`: the changes of the memory that the property has to outlast for programs to keep it.
-/

namespace LuaSession.Lua

/-- What an evaluation keeps to. -/
structure Policy where
  keeps : Mem → Prop
  allows : Request → Prop

/-- A key under which a table can hold a value. -/
def Value.IsKey : Value → Prop
  | .nil => False
  | .float x => x.isNaN = false
  | _ => True

theorem Value.isKey_int (n : Int64) : (Value.int n).IsKey := trivial

theorem Value.isKey_text (s : String) : (Value.text s).IsKey := trivial

/-- The property outlasts everything that programs and built-in functions do to the memory. -/
structure Policy.Stable (p : Policy) : Prop where
  newTable : ∀ m t, t.TextsOnce → p.keeps m → p.keeps (m.newTable t).2
  newFunc : ∀ m f, p.keeps m → p.keeps (m.newFunc f).2
  newFailure : ∀ m e, p.keeps m → p.keeps (m.newFailure e).2
  cells : ∀ m cs, p.keeps m → p.keeps { m with cells := cs }
  frame : ∀ m slots act, p.keeps m → p.keeps { m with slots := slots, act := act }
  set : ∀ m id (k v : Value), k.IsKey → p.keeps m → p.keeps (m.rawSet id k v)
  metatable : ∀ m id mark, p.keeps m →
    p.keeps (m.modifyTable id fun t => { t with metatable := mark })
  random : ∀ m r, p.keeps m → p.keeps { m with random := r }
  warnings : ∀ m w, p.keeps m → p.keeps { m with warnings := w }
  collector : ∀ m c, p.keeps m → p.keeps { m with collector := c }

/-- The policy that demands nothing of the memory. -/
def Policy.asking (allows : Request → Prop) : Policy := ⟨fun _ => True, allows⟩

theorem Policy.stable_asking (allows : Request → Prop) : (asking allows).Stable where
  newTable _ _ _ _ := trivial
  newFunc _ _ _ := trivial
  newFailure _ _ _ := trivial
  cells _ _ _ := trivial
  frame _ _ _ _ := trivial
  set _ _ _ _ _ _ := trivial
  metatable _ _ _ _ := trivial
  random _ _ _ := trivial
  warnings _ _ _ := trivial
  collector _ _ _ := trivial

/-- Setting a string key is setting its value as a key. -/
theorem Table.setText_eq (t : Table) (key : String) (value : Value) :
    t.setText key value = t.set (.text key) value := rfl

namespace Mem

theorem modifyTable_modifyTable (m : Mem) (id : Nat) (f g : Table → Table) :
    (m.modifyTable id f).modifyTable id g = m.modifyTable id fun t => g (f t) := by
  have h : (m.tables.modify id f).modify id g = m.tables.modify id fun t => g (f t) := by
    apply Array.ext <;> simp [Array.getElem_modify]
    grind
  simp only [modifyTable, h]

theorem modifyTable_id (m : Mem) (id : Nat) : (m.modifyTable id fun t => t) = m := by
  have h : (m.tables.modify id fun t => t) = m.tables := by
    apply Array.ext <;> simp [Array.getElem_modify]
  simp only [modifyTable, h]

end Mem

/-- Several keys of a table may be set at once. -/
theorem Policy.Stable.sets {p : Policy} (hp : p.Stable) {m : Mem} (hm : p.keeps m) (id : Nat)
    {ε : Type} (es : List ε) {key value : ε → Value} (hes : ∀ e, (key e).IsKey) :
    p.keeps (m.modifyTable id fun t => es.foldl (fun t e => t.set (key e) (value e)) t) := by
  induction es generalizing m with
  | nil => simpa only [List.foldl_nil, Mem.modifyTable_id] using hm
  | cons e es ih =>
    have h := ih (hp.set m id _ (value e) (hes e) hm)
    rw [Mem.rawSet, ← Mem.modifyTable, Mem.modifyTable_modifyTable] at h
    exact h

/-- The step keeps the property and makes no request that is not allowed, and so does everything
after it. -/
def Step.Obeys (p : Policy) : Step → Prop
  | .leave _ m | .raise _ m | .rethrow _ m | .again _ m => p.keeps m
  | .call _ _ _ k m | .yield _ k m => p.keeps m ∧ ∀ vs m, p.keeps m → (k vs m).Obeys p
  | .loop _ body k m =>
    p.keeps m ∧ (∀ vs m, p.keeps m → (body vs m).Obeys p) ∧
      ∀ flow m, p.keeps m → (k flow m).Obeys p
  | .protect _ body k m =>
    p.keeps m ∧ (∀ m, p.keeps m → (body m).Obeys p) ∧ ∀ r m, p.keeps m → (k r m).Obeys p
  | .ask r k m => p.keeps m ∧ p.allows r ∧ ∀ a m, p.keeps m → (k a m).Obeys p
  | .inquire _ k m => p.keeps m ∧ ∀ a m, p.keeps m → (k a m).Obeys p
  | .resume _ _ k m | .close _ k m => p.keeps m ∧ ∀ r m, p.keeps m → (k r m).Obeys p

/-- The computation obeys the policy if what follows it does. -/
def Task.Obeys {α : Type} (p : Policy) (t : Task α) : Prop :=
  ∀ k m, p.keeps m → (∀ a m, p.keeps m → (k a m).Obeys p) → (t k m).Obeys p

namespace Step

/-- Under a policy that demands nothing every step is fine. -/
theorem obeys_any (s : Step) : s.Obeys ⟨fun _ => True, fun _ => True⟩ := by
  induction s with
  | leave | raise | rethrow | again => exact trivial
  | call _ _ _ _ _ ih | yield _ _ _ ih | inquire _ _ _ ih | resume _ _ _ _ ih | close _ _ _ ih =>
    exact ⟨trivial, fun a m _ => ih a m⟩
  | loop _ _ _ _ body ih => exact ⟨trivial, fun vs m _ => body vs m, fun flow m _ => ih flow m⟩
  | protect _ _ _ _ body ih => exact ⟨trivial, fun m _ => body m, fun r m _ => ih r m⟩
  | ask _ _ _ ih => exact ⟨trivial, trivial, fun a m _ => ih a m⟩

/-- A step that obeys a policy is at a memory with its property. -/
theorem Obeys.keeps {p : Policy} {s : Step} (h : s.Obeys p) : ∃ m, p.keeps m := by
  cases s with
  | leave _ m | raise _ m | rethrow _ m | again _ m => exact ⟨m, h⟩
  | call _ _ _ _ m | yield _ _ m | loop _ _ _ m | protect _ _ _ m | ask _ _ m | inquire _ _ m
  | resume _ _ _ m | close _ _ m => exact ⟨m, h.1⟩

end Step

/-- Computations follow each other as functions do. -/
instance : LawfulMonad Task :=
  .mk' Task (fun _ => rfl) (fun _ _ => rfl) (fun _ _ _ => rfl)

namespace Task.Obeys

variable {α β : Type} {p : Policy}

/-! ### Parts -/

@[grind ←]
theorem pure (a : α) : (Pure.pure a : Task α).Obeys p :=
  fun _ m hm hk => hk a m hm

@[grind ←]
theorem bind {t : Task α} {f : α → Task β} (ht : t.Obeys p) (hf : ∀ a, (f a).Obeys p) :
    (t >>= f).Obeys p :=
  fun _ m hm hk => ht _ m hm fun a m hm => hf a _ m hm hk

@[grind ←]
theorem read (f : Mem → α) : (Task.read f).Obeys p :=
  fun _ m hm hk => hk _ m hm

theorem change {f : Mem → α × Mem} (h : ∀ m, p.keeps m → p.keeps (f m).2) :
    (Task.change f).Obeys p :=
  fun _ m hm hk => hk _ _ (h m hm)

theorem update {f : Mem → Mem} (h : ∀ m, p.keeps m → p.keeps (f m)) : (Task.update f).Obeys p :=
  fun _ m hm hk => hk _ _ (h m hm)

theorem ite {c : Prop} [Decidable c] {t u : Task α} (ht : t.Obeys p) (hu : u.Obeys p) :
    (if c then t else u).Obeys p := by
  split
  · exact ht
  · exact hu

/-- One of two parts before the rest. -/
theorem either {c : Prop} [Decidable c] {t u : Task α} {rest : α → Task β} (ht : t.Obeys p)
    (hu : u.Obeys p) (hr : ∀ a, (rest a).Obeys p) :
    (if c then t >>= rest else u >>= rest).Obeys p :=
  ite (bind ht hr) (bind hu hr)

/-- A check before the rest, which may raise an error. -/
theorem guard {c : Prop} [Decidable c] {check : Task Unit} {rest : Unit → Task α}
    (hc : check.Obeys p) (hr : ∀ u, (rest u).Obeys p) :
    (if c then check >>= rest else rest ()).Obeys p :=
  ite (bind hc hr) (hr ())

/-! ### Errors, calls and coroutines -/

@[grind ←]
theorem raise (e : Value) : (Task.raise e : Task α).Obeys p :=
  fun _ _ hm _ => hm

@[grind ←]
theorem rethrow (e : Value) : (Task.rethrow e : Task α).Obeys p :=
  fun _ _ hm _ => hm

@[grind ←]
theorem failAt (spot : Option Spot) (message : ByteArray) :
    (Task.failAt spot message : Task α).Obeys p :=
  raise _

@[grind ←]
theorem fail (spot : Option Spot) (message : String) : (Task.fail spot message : Task α).Obeys p :=
  raise _

@[grind ←]
theorem call (f : Value) (args : List Value) (site : Site) : (Task.call f args site).Obeys p :=
  fun _ _ hm hk => ⟨hm, hk⟩

@[grind ←]
theorem inquire (q : Inquiry) : (Task.inquire q).Obeys p :=
  fun _ _ hm hk => ⟨hm, hk⟩

@[grind ←]
theorem resume (thread : Nat) (args : List Value) : (Task.resume thread args).Obeys p :=
  fun _ _ hm hk => ⟨hm, hk⟩

@[grind ←]
theorem yield (vs : List Value) : (Task.yield vs).Obeys p :=
  fun _ _ hm hk => ⟨hm, hk⟩

@[grind ←]
theorem close (thread : Nat) : (Task.close thread).Obeys p :=
  fun _ _ hm hk => ⟨hm, hk⟩

@[grind ←]
theorem ask {r : Request} (hr : p.allows r) : (Task.ask r).Obeys p :=
  fun _ _ hm hk => ⟨hm, hr, hk⟩

/-! ### Bodies -/

@[grind ←]
theorem loop {start : List Value} {body : List Value → Task (List Value ⊕ Flow)}
    (h : ∀ s, (body s).Obeys p) : (Task.loop start body).Obeys p := by
  intro k m hm hk
  refine ⟨hm, fun s m hm => h s _ m hm ?_, hk⟩
  intro r m hm
  cases r with
  | inl s => exact hm
  | inr flow => exact hm

@[grind ←]
theorem protect {how : Catch} {body : Task Flow} (h : body.Obeys p) :
    (Task.protect how body).Obeys p :=
  fun _ _ hm hk => ⟨hm, fun m hm => h _ m hm fun _ _ hm => hm, hk⟩

@[grind ←]
theorem protectValues {how : Catch} {body : Task (List Value)} (h : body.Obeys p) :
    (Task.protectValues how body).Obeys p := by
  refine bind (protect (bind h fun _ => pure _)) fun r => ?_
  split <;> exact pure _

/-- Along a list, each computation may depend on its item. -/
@[grind ←]
theorem mapM {γ : Type} {f : γ → Task β} (l : List γ) (h : ∀ a, (f a).Obeys p) :
    (l.mapM f).Obeys p := by
  induction l with
  | nil => exact pure _
  | cons a l ih =>
    rw [List.mapM_cons]
    exact bind (h a) fun _ => bind ih fun _ => pure _

/-! ### What adds to the memory -/

section Stable

variable (hp : p.Stable)

include hp

@[grind ←]
theorem newTable {t : Table} (ht : t.TextsOnce) : (Task.newTable t).Obeys p :=
  change fun m hm => hp.newTable m t ht hm

@[grind ←]
theorem newBuiltin (b : Builtin) : (Task.newBuiltin b).Obeys p :=
  change fun m hm => hp.newFunc m _ hm

@[grind ←]
theorem raiseHost (e : HostError) : (Task.raiseHost e : Task α).Obeys p :=
  bind (change fun m hm => hp.newFailure m _ hm) fun _ => raise _

end Stable

end Task.Obeys

end LuaSession.Lua
