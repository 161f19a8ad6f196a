import LuaSession.Proofs.Lua.Layout
import LuaSession.Proofs.Session.Renewal

/-!
# Sessions that differ in their bindings

Two sessions whose contexts and bindings have different values, while all that lies behind them is the
same: what programs left in the memory, the metatable of the bindings, where the keys of the bindings
stand.

* `Session.clear_eq_iff`: just such sessions are the same when everything was unbound.
* `Session.SameBut.setContexts`: different contexts make such sessions.
-/

namespace LuaSession

open LuaSession.Lua

namespace Session

/-- Two sessions are the same but for their contexts and for what is hidden of the bindings. -/
structure SameBut (hide : Table → Table) (s t : Session) : Prop where
  bindings : t.bindings = s.bindings
  contextName : t.contextName = s.contextName
  threads : t.threads = s.threads
  sink : t.sink = s.sink
  mem : t.mem.modifyTable s.bindings hide = s.mem.modifyTable s.bindings hide

/-- They differ in the values of the bindings at most. -/
abbrev SameBehind (s t : Session) : Prop := s.SameBut Table.emptied t

/-- They differ at most in those values, and none of them is nil in one of the sessions only. -/
abbrev SameKeys (s t : Session) : Prop := s.SameBut (Table.mapValues Value.veiled) t

variable {s t : Session}

theorem SameBut.refl (hide : Table → Table) (s : Session) : s.SameBut hide s :=
  ⟨rfl, rfl, rfl, rfl, rfl⟩

theorem SameBut.behind (h : s.SameKeys t) : s.SameBehind t where
  bindings := h.bindings
  contextName := h.contextName
  threads := h.threads
  sink := h.sink
  mem := by
    have hmem := congrArg (Mem.modifyTable · s.bindings Table.emptied) h.mem
    simpa only [Mem.modifyTable_modifyTable, Table.emptied_mapValues] using hmem

/-- When everything was unbound nothing tells them apart, and otherwise something does. -/
theorem clear_eq_iff (hs : s.Sound) (ht : t.Sound) : s.clear = t.clear ↔ s.SameBehind t := by
  rw [clear_eq hs, clear_eq ht]
  constructor
  · intro h
    obtain ⟨hmem, hthreads, hbindings, hname, -, hsink⟩ := Session.mk.inj h
    exact ⟨hbindings.symm, hname.symm, hthreads.symm, hsink.symm, by rw [hmem, hbindings]⟩
  · rintro ⟨hbindings, hname, hthreads, hsink, hmem⟩
    rw [hbindings, hmem, hname, hthreads, hsink]

/-- Two values are bound of which neither or both are nil. -/
theorem SameBut.bind (h : s.SameKeys t) (key : Value) {v v' : Value} (hv : v'.veiled = v.veiled) :
    (s.bind key v).SameKeys (t.bind key v') where
  bindings := h.bindings
  contextName := h.contextName
  threads := h.threads
  sink := h.sink
  mem := by
    have hmem := congrArg (Mem.modifyTable · s.bindings (Table.set · key v.veiled)) h.mem
    simp only [Mem.modifyTable_modifyTable] at hmem
    change (t.mem.modifyTable t.bindings _).modifyTable s.bindings _ =
      (s.mem.modifyTable s.bindings _).modifyTable s.bindings _
    rw [h.bindings, Mem.modifyTable_modifyTable, Mem.modifyTable_modifyTable]
    simpa only [Table.set_mapValues Value.isNil_veiled, hv] using hmem

/-- A function is made in both. -/
theorem SameBut.addBuiltin (h : s.SameKeys t) (b : Builtin) :
    (t.mem.addBuiltin b).1 = (s.mem.addBuiltin b).1 ∧
      SameKeys { s with mem := (s.mem.addBuiltin b).2 } { t with mem := (t.mem.addBuiltin b).2 } := by
  have hmade := congrArg (Mem.addBuiltin · b) h.mem
  exact ⟨congrArg (·.1) hmade, h.bindings, h.contextName, h.threads, h.sink, congrArg (·.2) hmade⟩

theorem SameBut.bindHost (h : s.SameKeys t) (fns : List (String × HostFn)) :
    (s.bindHost fns).SameKeys (t.bindHost fns) := by
  induction fns generalizing s t with
  | nil => exact h
  | cons f fns ih =>
    obtain ⟨hvalue, hmem⟩ := h.addBuiltin (.host f.2)
    exact ih (hmem.bind _ (congrArg _ hvalue))

theorem SameBut.named (h : s.SameKeys t) (a b : String) : (s.named a).SameKeys (t.named b) := by
  have htexts : SameKeys { s with text := a } { t with text := b } :=
    ⟨h.bindings, h.contextName, h.threads, h.sink, h.mem⟩
  have hveiled : (Value.text b).veiled = (Value.text a).veiled := rfl
  have hbound := htexts.bind (.text s.contextName) hveiled
  rw [← h.contextName] at hbound
  rw [Session.named, ← h.contextName]
  exact hbound

/-- Each is given a context of its own. -/
theorem SameBut.setContext (h : s.SameKeys t) (a b : String) :
    (s.setContext a).SameKeys (t.setContext b) := by
  rw [setContext_eq, setContext_eq]
  exact (h.named a b).bindHost hostFns

/-- Each is given as many contexts. The induction is on their number. -/
theorem SameBut.setContexts (h : s.SameKeys t) {texts texts' : List String}
    (hlength : texts.length = texts'.length) :
    (texts.foldl Session.setContext s).SameKeys (texts'.foldl Session.setContext t) := by
  induction texts generalizing s t texts' with
  | nil =>
    rw [List.length_eq_zero_iff.1 hlength.symm]
    exact h
  | cons a texts ih =>
    cases texts' with
    | nil => cases hlength
    | cons b texts' =>
      rw [List.foldl_cons, List.foldl_cons]
      exact ih (h.setContext a b) (Nat.succ.inj hlength)

theorem setContexts_sound (h : s.Sound) (texts : List String) :
    (texts.foldl setContext s).Sound := by
  induction texts generalizing s with
  | nil => exact h
  | cons a texts ih =>
    rw [List.foldl_cons]
    exact ih (setContext_sound h a)

end Session

end LuaSession
