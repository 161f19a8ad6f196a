import LuaSession.Proofs.Service.Accounting
import LuaSession.Proofs.Session.Events

/-!
# Where output goes

The functions that a session puts in front write to the capture; those that the language has itself
write to the process. Which of them a program calls decides whether its output is captured.

* `Reached`: what can become of a session, with the events on the way.
* `execute_output`: where the output of a program goes in any such session.
* `prints_server`: what this means for the outside that a server has.
-/

namespace LuaSession.Service

open LuaSession.Lua

variable {W : Type} {o : Outside (StateM W)}

/-- The events of a command. -/
def commandEvents (o : Outside (StateM W)) (fuel : Nat) (s : Session) :
    (c : Command) → W → List Event
  | .execute code, w => s.executeEvents o fuel code (o.stopwatch w).2
  | .getVariable name, w => s.lookupEvents o fuel name w
  | .setContext _, _ | .destroy, _ => []

theorem perform_tells (fuel : Nat) (s : Session) (c : Command) (w : W) :
    Session.Tells o s (commandEvents o fuel s c w) w (perform o fuel s c w) := by
  cases c with
  | execute code =>
    have h : Session.Tells o s (s.executeEvents o fuel code (o.stopwatch w).2) w
        (s.execute o fuel code (o.stopwatch w).2) :=
      (Session.execute_tells fuel s code _).of_worlds (fun ho => ho.stopwatch w) fun _ => rfl
    simp only [perform, commandEvents, bind, StateT.bind]
    generalize o.stopwatch w = watch at h ⊢
    rcases watch with ⟨before, u⟩
    dsimp only at h ⊢
    rcases hr : s.execute o fuel code u with ⟨e | ⟨captured, s'⟩, v⟩
    · rw [hr] at h
      exact ⟨h.printed, fun hs => ⟨(h.announced hs).1, fun _ => trivial⟩, trivial⟩
    · rw [hr] at h
      exact ⟨fun ho => (ho.stopwatch v).trans (h.printed ho), h.announced, h.bindings⟩
  | setContext text =>
    refine .quiet (fun ho => ho.log _ w) (fun hs => ?_) (Session.setContext_bindings s text)
    exact Session.setContext_obeys (Policy.stable_asking _) hs text
  | getVariable name =>
    exact (Session.lookup_tells fuel s name w).next (fun _ => rfl) fun _ _ => ⟨_, rfl⟩
  | destroy =>
    refine .quiet (fun ho => ho.log _ w) (fun hs => ⟨trivial, ?_⟩) (Session.clear_bindings s)
    change ∀ t ∈ s.clear.threads, _
    rw [Session.clear_threads]
    exact hs.threads

/-- What a session can become: commands were carried out one after the other, in whatever worlds, and
these were the events. -/
inductive Reached (s₀ : Session) : List Event → Session → Prop
  | start : Reached s₀ [] s₀
  | perform {past : List Event} {s s' : Session} {W : Type} {o : Outside (StateM W)} {fuel : Nat}
      {c : Command} {w w' : W} {result : Json} :
      Reached s₀ past s → perform o fuel s c w = (.ok (result, s'), w') →
      Reached s₀ (past ++ commandEvents o fuel s c w) s'

/-- In all that ever happened a request was announced by a call. -/
theorem Reached.announced {s₀ s : Session} {past : List Event} (h : Reached s₀ past s)
    {r : Request} (h₀ : s₀.Obeys (.without r)) :
    Announced r past ∧ (Silent r past → s.Obeys (.without r)) := by
  induction h with
  | start => exact ⟨.nil, fun _ => h₀⟩
  | @perform past s s' W o fuel c w w' result _ hrun ih =>
    have htells := perform_tells (o := o) fuel s c w
    rw [hrun] at htells
    refine ⟨ih.1.append fun h => (htells.announced (ih.2 h)).1, fun h => ?_⟩
    obtain ⟨hpast, hnew⟩ := Silent.append.mp h
    exact (htells.announced (ih.2 hpast)).2 hnew

/-- The functions of the language that write to the output of the process. -/
def nativeWriters : List Builtin := [.basic .print, .io .write, .io .fileWrite]

theorem mayAsk_spill {b : Builtin} {content : ByteArray} (h : b.MayAsk (.spill .out content)) :
    b ∈ nativeWriters := by
  cases b with
  | basic f => cases f <;> simp_all [nativeWriters, Builtin.MayAsk, BasicFn.MayAsk]
  | io f => cases f <;> simp_all [nativeWriters, Builtin.MayAsk, IoFn.MayAsk]
  | math f => cases f <;> cases h
  | os f => cases f <;> cases h
  | host f => cases f <;> cases h
  | string | table | utf8 | coroutine | matches_ => cases h

/-- What is spilled is asked for. -/
theorem spilled_eq_nil {es : List Event} (h : ∀ content, .asked (.spill .out content) ∉ es) :
    spilled es = [] := by
  refine List.flatMap_eq_nil_iff.mpr fun e he => ?_
  cases e with
  | called b => rfl
  | asked r =>
    cases r with
    | spill channel content =>
      cases channel with
      | out => exact absurd he (h content)
      | err => rfl
    | write | ask | context | log | now | clock | variable_ | exit => rfl

/-! ### The outside of a server -/

/-- A computation that keeps a client, over the client and the world together. -/
def pair {α : Type} (x : StateT Bridge.Client (StateM W) α) : StateM (Bridge.Client × W) α :=
  fun s => ((x s.1 s.2).1.1, ((x s.1 s.2).1.2, (x s.1 s.2).2))

/-- An outside with a client, over the client and the world together. -/
def paired (o : Outside (StateT Bridge.Client (StateM W))) : Outside (StateM (Bridge.Client × W)) where
  now := pair o.now
  clock := pair o.clock
  stopwatch := pair o.stopwatch
  variable_ name := pair (o.variable_ name)
  spill channel content := pair (o.spill channel content)
  ask method params := pair (o.ask method params)
  log e := pair (o.log e)

theorem paired_ask (ports : Stream.Ports (StateM W)) (q : Surroundings (StateM W))
    (method : String) (params : Json) (c : Bridge.Client) (w : W) :
    (paired (outside ports q)).ask method params (c, w) =
      ((c.call ports method params w).1.1,
        ((c.call ports method params w).1.2, (c.call ports method params w).2)) := rfl

/-- Computations that keep a client correspond to what they are over the client and the world
together. -/
def pairing : Correspondence (StateT Bridge.Client (StateM W)) (StateM (Bridge.Client × W)) where
  holds P x y := pair x = y ∧ ∀ s, P (y s).1
  pure h := ⟨rfl, fun _ => h⟩
  bind {_ _ _ _ x y f g} hx hf := by
    obtain ⟨rfl, hx⟩ := hx
    refine ⟨funext fun s => ?_, fun s => (hf _ (hx s)).2 (pair x s).2⟩
    exact congrFun (hf _ (hx s)).1 (pair x s).2

theorem paired_corresponds (p : Policy) (o : Outside (StateT Bridge.Client (StateM W))) :
    o.Corresponds pairing p (paired o) where
  now := ⟨rfl, fun _ => trivial⟩
  clock := ⟨rfl, fun _ => trivial⟩
  stopwatch := ⟨rfl, fun _ => trivial⟩
  variable_ _ := ⟨rfl, fun _ => trivial⟩
  log _ := ⟨rfl, fun _ => trivial⟩
  spill _ _ _ := ⟨rfl, fun _ => trivial⟩
  ask _ _ _ := ⟨rfl, fun _ => trivial⟩

/-- A line is answered the same over the client and the world together. -/
theorem dispatchLine_paired (o : Outside (StateT Bridge.Client (StateM W))) (fuel : Nat)
    (s : Session) (line : String) :
    dispatchLine (paired o) fuel s line = pair (dispatchLine o fuel s line) :=
  (dispatchLine_holds (Policy.lasting_asking fun _ _ _ => trivial) (paired_corresponds _ o) fuel
    (Session.obeys_any s) line).1.symm

/-- What programs wrote to the output of the process of a world. -/
def World.printed (w : World) : List UInt8 :=
  (w.spilled.filter (·.channel = .out)).flatMap (·.content.data.toList)

theorem World.spilled_bind {α β : Type} {x : StateM World α} {f : α → StateM World β}
    (hx : ∀ w, (x w).2.spilled = w.spilled) (hf : ∀ a w, (f a w).2.spilled = w.spilled)
    (w : World) : ((x >>= f) w).2.spilled = w.spilled :=
  (hf _ _).trans (hx w)

/-- A call reads and writes lines of protocol only. -/
theorem World.call_spilled (c : Bridge.Client) (method : String) (params : Json) (w : World) :
    (c.call ports method params w).2.spilled = w.spilled := by
  have hread (w : World) : (ports.readLine w).2.spilled = w.spilled := by rw [readLine_eq]
  have hwrite (line : String) (w : World) : (ports.writeLine line w).2.spilled = w.spilled := by
    rw [writeLine_eq]
  have hlog (e : Log.Event) (w : World) : (ports.log e w).2.spilled = w.spilled := by rw [log_eq]
  have hreply (id : String) (reply : Except BridgeError Json) (w : World) :
      (Bridge.Client.logReply ports id reply w).2.spilled = w.spilled := by
    unfold Bridge.Client.logReply
    split
    · exact hlog _ w
    · rfl
    · exact hlog _ w
  unfold Bridge.Client.call
  refine spilled_bind (hlog _) (fun _ => spilled_bind (hwrite _) fun written w => ?_) w
  split
  · rfl
  · refine spilled_bind hread (fun r w => ?_) w
    split
    · rfl
    · rfl
    · exact spilled_bind (hreply _ _) (fun _ _ => rfl) w

/-- The outside of a server in a world. -/
def serverOutside : Outside (StateM (Bridge.Client × World)) :=
  paired (outside World.ports World.surroundings)

theorem prints_server : serverOutside.Prints fun s => s.2.printed where
  now _ := rfl
  clock _ := rfl
  stopwatch _ := rfl
  variable_ _ _ := rfl
  log _ _ := rfl
  ask method params s := by
    obtain ⟨c, w⟩ := s
    rw [serverOutside, paired_ask, World.printed, World.call_spilled, ← World.printed]
  spill channel content s := by
    change World.printed { s.2 with spilled := s.2.spilled ++ [_] } = _
    rw [World.printed, List.filter_append, List.flatMap_append]
    cases channel with
    | out => exact congrArg _ (List.append_nil _)
    | err => rfl

/-! ### Where the output of a program goes -/

/-- Whatever a session went through and whatever program it runs: the output of the process grows by
what the program spills, the capture has all that it writes, and so all that it prints is captured and
none of it reaches the process exactly if nothing is spilled. A request to spill comes after the call
of a function of the language that writes; where none was ever called, nothing is spilled. -/
theorem execute_output {contextName : String} {s₀ s : Session}
    (hstart : Session.start contextName = .ok s₀) {past : List Event} (h : Reached s₀ past s)
    {printed : W → List UInt8} (ho : o.Prints printed) (fuel : Nat) (code : String) (w : W) :
    let es := s.executeEvents o fuel code w
    printed (s.execute o fuel code w).2 = printed w ++ spilled es ∧
    (∀ captured s', (s.execute o fuel code w).1 = .ok (captured, s') →
      captured.out = written .out es ∧
      ((captured.out = output es ∧ printed (s.execute o fuel code w).2 = printed w) ↔
        spilled es = [])) ∧
    (∀ before after r, past ++ es = before ++ .asked r :: after →
      ∃ b, .called b ∈ before ∧ b.MayAsk r) ∧
    ((∀ b ∈ nativeWriters, .called b ∉ past ++ es) → spilled es = []) := by
  intro es
  have htells : Session.Tells o s es w (s.execute o fuel code w) :=
    Session.execute_tells fuel s code w
  have hall (r : Request) : Announced r (past ++ es) := by
    obtain ⟨hpast, hs⟩ := h.announced (Session.start_obeys hstart trivial)
    exact hpast.append fun hsilent => (htells.announced (hs hsilent)).1
  refine ⟨htells.printed ho, fun captured s' hr => ?_, fun before after r => hall r before after,
    fun hnone => spilled_eq_nil fun content hasked => ?_⟩
  · have hout : captured.out = written .out es := by
      rcases hrun : s.execute o fuel code w with ⟨r, w'⟩
      rw [hrun] at hr
      cases hr
      exact Session.execute_out hrun
    refine ⟨hout, fun ⟨_, hprinted⟩ => ?_, fun hspilled => ⟨?_, ?_⟩⟩
    · rw [htells.printed ho] at hprinted
      exact List.append_right_eq_self.mp hprinted
    · rw [hout, output_of_spilled hspilled]
    · rw [htells.printed ho, hspilled, List.append_nil]
  · obtain ⟨before, after, heq⟩ := List.append_of_mem hasked
    obtain ⟨b, hb, hr⟩ := hall (.spill .out content) (past ++ before) after
      (by rw [heq, List.append_assoc])
    refine hnone b (mayAsk_spill hr) ?_
    rw [heq, ← List.append_assoc]
    exact List.mem_append_left _ hb

/-- A program that prints in three ways, in one of them by a name that an earlier program gave. -/
def sampleProgram : String := "f('x') io.write('y') io.stdout:write('z')"

/-- All that it prints is captured. -/
theorem execute_output_sample : ∃ (s₀ s s' : Session) (result : Json) (captured : Captured)
    (v w : Bridge.Client × World), Session.start "context" = .ok s₀ ∧
    perform serverOutside 400 s₀ (.execute "f = print") (⟨"bridge", 0⟩, {}) = (.ok (result, s), v) ∧
    s.execute serverOutside 400 sampleProgram v = (.ok (captured, s'), w) ∧
    captured.out = "x\nyz" ∧ w.2.printed = v.2.printed ∧
    captured.out = output (s.executeEvents serverOutside 400 sampleProgram v) := by
  have h : ((Session.start "context").toOption.map fun s₀ =>
      match perform serverOutside 400 s₀ (.execute "f = print") (⟨"bridge", 0⟩, {}) with
      | (.error _, _) => none
      | (.ok (_, s), v) =>
        match s.execute serverOutside 400 sampleProgram v with
        | (.error _, _) => none
        | (.ok (captured, _), w) => some (captured.out, v.2.printed, w.2.printed)) =
      some (some ("x\nyz", [], [])) := by
    decide +kernel
  rcases hstart : Session.start "context" with e | s₀
  · rw [hstart] at h
    cases h
  rw [hstart] at h
  rcases hfirst : perform serverOutside 400 s₀ (.execute "f = print") (⟨"bridge", 0⟩, {}) with
    ⟨e | ⟨result, s⟩, v⟩
  · simp [Except.toOption, hfirst] at h
  rcases hrun : s.execute serverOutside 400 sampleProgram v with ⟨e | ⟨captured, s'⟩, w⟩
  · simp [Except.toOption, hfirst, hrun] at h
  simp only [Except.toOption, hfirst, hrun, Option.map_some, Option.some.injEq, Prod.mk.injEq] at h
  obtain ⟨hout, hv, hw⟩ := h
  obtain ⟨hprinted, hcaptured, -⟩ :=
    execute_output hstart (.perform .start hfirst) prints_server 400 sampleProgram v
  rw [hrun] at hprinted hcaptured
  obtain ⟨-, hall⟩ := hcaptured captured s' rfl
  refine ⟨s₀, s, s', result, captured, v, w, rfl, hfirst, hrun, hout, hw.trans hv.symm, ?_⟩
  exact (hall.mpr (List.append_right_eq_self.mp (hprinted.symm.trans (hw.trans hv.symm)))).1

/-- What a client sends that reaches for the function of the language. -/
def globalsInput : String :=
  "\x7b\"id\":1,\"method\":\"execute\",\"params\":\x7b\"code\":\"_G.print('x')\"\x7d\x7d\n"

/-- The output is not captured, and stands on the stream of the protocol in front of the response. -/
theorem globals_print_spills :
    ((Server.start "bridge" "context").toOption.map fun x =>
      (x.serve World.ports World.surroundings 400 (.ofText globalsInput)).2.written .out) =
    some ("x\n\x7b\"jsonrpc\":\"2.0\",\"id\":1,\"result\":\x7b\"duration\":0.0,\"stderr\":\"\",".toUTF8 ++
      "\"stdout\":\"\"\x7d\x7d\n".toUTF8) := by
  decide +kernel

end LuaSession.Service
