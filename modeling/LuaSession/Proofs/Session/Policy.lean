import LuaSession.Proofs.Lua.Policy.Run
import LuaSession.Service.Dispatch

/-!
# Sessions keep to policies and correspond

What is asked of a session is an evaluation, a look-up or a change of the bindings. Over two outsides
that correspond it does the same, and what is left of the session obeys the policy again, so the next
request finds it as it has to be.

* `dispatchLine_holds`: for any line at all.
-/

namespace LuaSession

open LuaSession.Lua

variable {m n : Type → Type} [Monad m] [Monad n] {p : Policy}

/-- The property outlasts the unbinding of everything, too. -/
structure Lua.Policy.Lasting (p : Policy) : Prop extends p.Liberal where
  clear : ∀ s : Session, p.keeps s.mem → p.keeps s.clear.mem

theorem Lua.Policy.lasting_asking {allows : Request → Prop}
    (h : ∀ (b : Builtin) (r : Request), b.MayAsk r → allows r) : (Policy.asking allows).Lasting where
  toStable := Policy.stable_asking allows
  allows := h
  clear _ _ := trivial

/-! ### What is built before any binding -/

namespace Lua.Policy

variable {m : Mem}

theorem keeps_of_eq {α : Type} {r : α × Mem} {a : α} (hr : r = (a, m)) (h : p.keeps r.2) :
    p.keeps m := by
  rwa [hr] at h

namespace Stable

theorem addBuiltin (hp : p.Stable) (b : Builtin) (h : p.keeps m) : p.keeps (m.addBuiltin b).2 :=
  hp.newFunc m _ h

theorem addNamed {α : Type} (hp : p.Stable) (wrap : α → Builtin) (fns : List (String × α))
    (h : p.keeps m) : p.keeps (m.addNamed wrap fns).2 := by
  induction fns generalizing m with
  | nil => exact h
  | cons f fns ih => exact ih (hp.addBuiltin _ h)

theorem addRecord (hp : p.Stable) (fields : List (String × Value)) (h : p.keeps m) :
    p.keeps (m.addRecord fields).2 :=
  hp.newTable m _ (Table.textsOnce_ofFields _) h

theorem addLibrary {α : Type} (hp : p.Stable) (wrap : α → Builtin) (all : List (String × α))
    (more : List (String × Value)) (h : p.keeps m) : p.keeps (m.addLibrary wrap all more).2 :=
  hp.newTable _ _ (Table.textsOnce_ofFields _) (hp.addNamed wrap all h)

theorem addHost (hp : p.Stable) (fns : List (String × HostFn)) (more : List (String × Value))
    (h : p.keeps m) : p.keeps (Session.addHost m fns more).2 :=
  hp.newTable _ _ (Table.textsOnce_ofFields _) (hp.addNamed Builtin.host fns h)

theorem behind (hp : p.Stable) (id : Nat) (other : Value) (h : p.keeps m) :
    p.keeps (Session.behind m id other) :=
  hp.metatable _ id _ (hp.addRecord _ h)

theorem addLayer (hp : p.Stable) (h : p.keeps m) : p.keeps (Session.addLayer m).2 := by
  unfold Session.addLayer
  refine hp.behind _ _ (hp.addHost _ _ (hp.behind _ _ (hp.addHost _ _ ?_)))
  exact hp.addHost _ _ (hp.addHost _ _ (hp.addHost _ _ h))

end Stable

end Lua.Policy

/-! ### Sessions -/

/-- The memory has the property and everything that waits in the coroutines obeys the policy. -/
structure Session.Obeys (p : Policy) (s : Session) : Prop where
  mem : p.keeps s.mem
  threads : ∀ t ∈ s.threads, t.Obeys p

namespace Session

variable {s : Session}

/-- Every session obeys a policy that demands nothing. -/
theorem obeys_any (s : Session) : s.Obeys (.asking fun _ => True) :=
  ⟨trivial, fun t _ => t.obeys_any⟩

/-! ### Bindings -/

theorem bind_obeys (hp : p.Stable) (hs : s.Obeys p) {key : Value} (hkey : key.IsKey)
    (value : Value) : (s.bind key value).Obeys p :=
  ⟨hp.set _ _ _ _ hkey hs.mem, hs.threads⟩

theorem bindHost_obeys (hp : p.Stable) (hs : s.Obeys p) (fns : List (String × HostFn)) :
    (s.bindHost fns).Obeys p := by
  induction fns generalizing s with
  | nil => exact hs
  | cons f fns ih =>
    refine ih ⟨hp.set _ _ _ _ (Value.isKey_text _) (hp.newFunc _ _ hs.mem), hs.threads⟩

theorem setContext_obeys (hp : p.Stable) (hs : s.Obeys p) (text : String) :
    (s.setContext text).Obeys p := by
  have hs' : Session.Obeys p { s with text := text } := ⟨hs.mem, hs.threads⟩
  exact bindHost_obeys hp (bindHost_obeys hp (bind_obeys hp hs' (Value.isKey_text _) _) _) _

/-- Functions of the host are bound by a change of the memory. -/
theorem exists_bindHost (s : Session) (fns : List (String × HostFn)) :
    ∃ m, s.bindHost fns = { s with mem := m } := by
  induction fns generalizing s with
  | nil => exact ⟨s.mem, rfl⟩
  | cons f fns ih =>
    obtain ⟨m, hm⟩ := ih _
    exact ⟨m, hm⟩

theorem bindHost_threads (s : Session) (fns : List (String × HostFn)) :
    (s.bindHost fns).threads = s.threads := by
  obtain ⟨m, hm⟩ := s.exists_bindHost fns
  rw [hm]

theorem bindHost_contextName (s : Session) (fns : List (String × HostFn)) :
    (s.bindHost fns).contextName = s.contextName := by
  obtain ⟨m, hm⟩ := s.exists_bindHost fns
  rw [hm]

/-- So is a context. -/
theorem exists_setContext (s : Session) (text : String) :
    ∃ m, s.setContext text = { s with mem := m, text := text } := by
  unfold setContext bindUtilities bindCallbacks
  obtain ⟨m, hm⟩ := exists_bindHost (Session.bind { s with text := text } (.text s.contextName)
    (.text text)) (Callback.all.map fun f => (f.name, .callback f))
  rw [hm]
  obtain ⟨m', hm'⟩ := exists_bindHost
    { Session.bind { s with text := text } (.text s.contextName) (.text text) with mem := m }
    (Utility.all.map fun f => (f.name, .utility f))
  exact ⟨m', hm'⟩

/-- A context is given by setting bindings. -/
theorem setContext_bindings (s : Session) (text : String) :
    (s.setContext text).bindings = s.bindings := by
  obtain ⟨m, hm⟩ := s.exists_setContext text
  rw [hm]

theorem setContext_contextName (s : Session) (text : String) :
    (s.setContext text).contextName = s.contextName := by
  obtain ⟨m, hm⟩ := s.exists_setContext text
  rw [hm]

/-- Everything is unbound by a change of the memory. -/
theorem exists_clear (s : Session) : ∃ m, s.clear = { s with mem := m, text := "" } := by
  have hall (es : List (Value × Value)) (s : Session) :
      ∃ m, es.foldl (fun s e => s.bind e.1 .nil) s = { s with mem := m } := by
    induction es generalizing s with
    | nil => exact ⟨s.mem, rfl⟩
    | cons e es ih =>
      obtain ⟨m, hm⟩ := ih _
      exact ⟨m, hm⟩
  obtain ⟨m, hm⟩ := hall s.entries s
  exact ⟨m, by rw [clear, hm]⟩

theorem clear_bindings (s : Session) : s.clear.bindings = s.bindings := by
  obtain ⟨m, hm⟩ := s.exists_clear
  rw [hm]

theorem clear_contextName (s : Session) : s.clear.contextName = s.contextName := by
  obtain ⟨m, hm⟩ := s.exists_clear
  rw [hm]

theorem clear_threads (s : Session) : s.clear.threads = s.threads := by
  obtain ⟨m, hm⟩ := s.exists_clear
  rw [hm]

theorem clear_obeys (hp : p.Lasting) (hs : s.Obeys p) : s.clear.Obeys p :=
  ⟨hp.clear s hs.mem, by rw [clear_threads]; exact hs.threads⟩

/-- In a new session no coroutine waits for anything. -/
theorem start_threads {name : String} (h : start name = .ok s) : s.threads = #[.active] := by
  unfold start at h
  split at h
  · cases h
  · cases h
    exact bindHost_threads _ _

theorem start_contextName {name : String} (h : start name = .ok s) : s.contextName = name := by
  unfold start at h
  split at h
  · cases h
  · cases h
    exact bindHost_contextName _ _

theorem start_obeys {name : String} (h : start name = .ok s) (hs : p.keeps s.mem) :
    s.Obeys p := by
  refine ⟨hs, fun t ht => ?_⟩
  rw [start_threads h, List.mem_toArray, List.mem_singleton] at ht
  subst ht
  trivial

/-! ### Evaluation -/

variable {R : Correspondence m n} {o : Outside m} {o' : Outside n}

theorem run_holds (hp : p.Liberal) (ho : o.Corresponds R p o') (fuel : Nat) (hs : s.Obeys p)
    {t : Lua.Task (List Value)} (ht : t.Obeys p) :
    R.holds (IfOk fun r => r.2.Obeys p) (s.run o fuel t) (s.run o' fuel t) := by
  refine R.bind (runTask_holds hp ho _ _ _ hs.threads ht hs.mem) fun r hr => ?_
  cases r with
  | error h => exact R.pure trivial
  | ok r => exact R.pure ⟨hp.frame _ _ _ hr.mem, hr.threads⟩

theorem chunk_obeys (hp : p.Stable) (s : Session) (f : Proto) : (s.chunk f).Obeys p :=
  .bind (BasicFn.enclose_obeys hp f _) fun _ => .call _ _ _

theorem evaluate_holds (hp : p.Liberal) (ho : o.Corresponds R p o') (fuel : Nat)
    (hs : s.Obeys p) (code : String) :
    R.holds (IfOk fun r => r.2.Obeys p) (s.evaluate o fuel code) (s.evaluate o' fuel code) := by
  unfold evaluate
  split
  · exact R.pure hs
  · rename_i f _
    refine R.bind (run_holds hp ho fuel hs (chunk_obeys hp.toStable s f)) fun r hr => ?_
    split
    · exact R.pure trivial
    · exact R.pure hr
    · exact R.pure hr

theorem execute_holds (hp : p.Liberal) (ho : o.Corresponds R p o') (fuel : Nat)
    (hs : s.Obeys p) (code : String) :
    R.holds (IfOk fun r => r.2.Obeys p) (s.execute o fuel code) (s.execute o' fuel code) := by
  unfold execute
  refine R.bind_any (ho.log _) fun _ => ?_
  have hs' : Session.Obeys p { s with sink := s.sink.capture.2 } := ⟨hs.mem, hs.threads⟩
  refine R.bind (evaluate_holds hp ho fuel hs' code) fun r hr => ?_
  split
  · exact R.pure trivial
  · exact R.bind_any (ho.log _) fun _ => R.pure ⟨hr.mem, hr.threads⟩

theorem textOf_obeys (v : Value) : (textOf v).Obeys p := by
  unfold textOf
  refine .bind (.read _) fun globals => .bind (.index _ _ _ _) fun f => ?_
  split
  · exact .call _ _ _
  · exact .pure _

theorem present_holds (hp : p.Liberal) (ho : o.Corresponds R p o') (fuel : Nat)
    (hs : s.Obeys p) (v : Value) :
    R.holds (IfOk fun r => r.2.Obeys p) (s.present o fuel v) (s.present o' fuel v) := by
  unfold present
  split
  · exact R.pure hs
  · refine R.bind (run_holds hp ho fuel hs (textOf_obeys _)) fun r hr => ?_
    split
    · exact R.pure trivial
    · exact R.pure hr

theorem lookup_holds (hp : p.Liberal) (ho : o.Corresponds R p o') (fuel : Nat)
    (hs : s.Obeys p) (name : String) :
    R.holds (IfOk fun r => r.2.Obeys p) (s.lookup o fuel name) (s.lookup o' fuel name) := by
  unfold lookup
  split
  · exact R.pure hs
  · exact present_holds hp ho fuel hs _

theorem provide_holds (hp : p.Liberal) (ho : o.Corresponds R p o') (hs : s.Obeys p)
    (text : String) : R.holds (Session.Obeys p) (s.provide o text) (s.provide o' text) :=
  R.bind_any (ho.log _) fun _ => R.pure (setContext_obeys hp.toStable hs text)

theorem destroy_holds (hp : p.Lasting) (ho : o.Corresponds R p o') (hs : s.Obeys p) :
    R.holds (Session.Obeys p) (s.destroy o) (s.destroy o') :=
  R.bind_any (ho.log _) fun _ => R.pure (clear_obeys hp hs)

end Session

/-! ### Requests -/

namespace Service

variable {R : Correspondence m n} {o : Outside m} {o' : Outside n} {s : Session}

theorem perform_holds (hp : p.Lasting) (ho : o.Corresponds R p o') (fuel : Nat) (hs : s.Obeys p)
    (c : Command) :
    R.holds (IfOk fun r => r.2.Obeys p) (perform o fuel s c) (perform o' fuel s c) := by
  cases c with
  | execute code =>
    refine R.bind_any ho.stopwatch fun before => ?_
    refine R.bind (Session.execute_holds hp.toLiberal ho fuel hs code) fun r hr => ?_
    split
    · exact R.pure trivial
    · exact R.bind_any ho.stopwatch fun after => R.pure hr
  | setContext text =>
    exact R.bind (Session.provide_holds hp.toLiberal ho hs text) fun s hs => R.pure hs
  | getVariable name =>
    refine R.bind (Session.lookup_holds hp.toLiberal ho fuel hs name) fun r hr => ?_
    split
    · exact R.pure trivial
    · exact R.pure hr
  | destroy => exact R.bind (Session.destroy_holds hp ho hs) fun s hs => R.pure hs

theorem dispatch_holds (hp : p.Lasting) (ho : o.Corresponds R p o') (fuel : Nat) (hs : s.Obeys p)
    (r : Wire.Request) :
    R.holds (IfOk fun x => x.1.id = r.id ∧ x.2.Obeys p) (dispatch o fuel s r)
      (dispatch o' fuel s r) := by
  refine R.bind_any (ho.log _) fun _ => ?_
  split
  · refine R.bind (perform_holds hp ho fuel hs _) fun x hx => ?_
    split
    · exact R.pure trivial
    · exact R.pure ⟨rfl, hx⟩
  · split
    all_goals exact R.bind_any (ho.log _) fun _ => R.pure ⟨rfl, hs⟩

/-- The id that a response to a line has to carry: that of the request, as far as there is one. -/
def idOf (line : List Char) : Json :=
  match Json.parse line with
  | .ok (.obj fields) => (Json.lookup "id" fields).getD .null
  | _ => .null

/-- The id that the decoder finds is the one in the line, whether or not the line is a request. -/
theorem decodeRequest_id (line : List Char) :
    (match Wire.decodeRequest line with
      | .ok r => r.id
      | .error e => e.id) = idOf line := by
  unfold Wire.decodeRequest idOf
  cases Json.parse line with
  | error e => rfl
  | ok v =>
    cases v with
    | obj fields =>
      dsimp only
      cases Json.lookup "method" fields with
      | none => rfl
      | some method => cases method <;> rfl
    | null | bool | int | float | str | arr => rfl

theorem dispatchLine_holds (hp : p.Lasting) (ho : o.Corresponds R p o') (fuel : Nat)
    (hs : s.Obeys p) (line : String) :
    R.holds (IfOk fun x => x.1.id = idOf line.toList ∧ x.2.Obeys p) (dispatchLine o fuel s line)
      (dispatchLine o' fuel s line) := by
  have hid := decodeRequest_id line.toList
  unfold dispatchLine
  split
  · rename_i r h
    rw [h] at hid
    exact hid ▸ dispatch_holds hp ho fuel hs r
  · rename_i e h
    rw [h] at hid
    exact R.bind_any (ho.log _) fun _ => R.pure ⟨hid, hs⟩

end Service

end LuaSession
