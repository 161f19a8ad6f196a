import LuaSession.Proofs.Service.Accounting

/-!
# Writes that fail

The run of a server over a stream on which only the first writes succeed, beside the run on which all
of them do. The two are in step up to the first write that fails. From there on the one run may answer
on and on, while in the other nothing is sent any more, whatever evaluated code makes of the failure.

* `World.inStep`: runs in step, and runs that have parted.
* `answer_failsApart`: one line, however evaluated code goes on after a call that failed.
* `serve_limited`: whole runs.
-/

namespace LuaSession.Service

open LuaSession.Bridge LuaSession.Lua LuaSession.Stream LuaSession.Wire

namespace World

/-- The world in which only the first `n` writes to the stream of the protocol succeed. -/
def limited (n : Nat) (f : String) (w : World) : World :=
  { w with streams.transport.outbound.limit := some (n, f) }

/-- What was written so far stays written, and no write fails. -/
structure Extends (w w' : World) : Prop where
  isOpen : w'.Open
  writes : w.writes <+: w'.writes

/-- No write succeeds any more. -/
structure Shut (n : Nat) (f : String) (v : World) : Prop where
  limit : v.streams.transport.outbound.limit = some (n, f)
  flush : v.streams.transport.outbound.flushFailure = none
  full : n ≤ v.writes.length

/-- No write has failed so far: but for the limit the worlds are the same. -/
structure InStep (n : Nat) (f : String) (w v : World) : Prop where
  isOpen : w.Open
  same : v = w.limited n f
  room : w.writes.length ≤ n

/-- A write that succeeded in the one world failed in the other, in which no more are made. -/
structure Parted (n : Nat) (f : String) (w v : World) : Prop where
  isOpen : w.Open
  shut : v.Shut n f
  more : n < w.writes.length
  writes : v.writes = w.writes.take n

variable {n : Nat} {f : String} {u v v' w w' : World}

theorem Extends.refl (h : w.Open) : w.Extends w := ⟨h, List.prefix_refl _⟩

theorem Extends.trans (h : u.Extends v) (h' : v.Extends w) : u.Extends w :=
  ⟨h'.isOpen, h.writes.trans h'.writes⟩

/-- Whatever leaves the stream to write to alone. -/
theorem Extends.of_outbound (h : w.Open)
    (hw : w'.streams.transport.outbound = w.streams.transport.outbound) : w.Extends w' := by
  have hwrites : w'.writes = w.writes := by rw [World.writes, World.writes, hw]
  exact ⟨by rw [Open, hw]; exact h, hwrites ▸ List.prefix_refl _⟩

theorem Shut.of_outbound (h : v.Shut n f)
    (hv : v'.streams.transport.outbound = v.streams.transport.outbound) : v'.Shut n f := by
  refine ⟨by rw [hv]; exact h.limit, by rw [hv]; exact h.flush, ?_⟩
  rw [World.writes, hv]
  exact h.full

/-- Worlds that have parted stay apart. -/
theorem Parted.apart (h : Parted n f w v) (hw : w.Extends w') (hv : v'.Shut n f)
    (hwrites : v'.writes = v.writes) : Parted n f w' v' := by
  obtain ⟨more, hmore⟩ := hw.writes
  refine ⟨hw.isOpen, hv, Nat.lt_of_lt_of_le h.more hw.writes.length_le, ?_⟩
  rw [hwrites, h.writes, ← hmore, List.take_append_of_le_length (Nat.le_of_lt h.more)]

/-- Runs that have the same results for as long as they are in step. When they have parted, the one
goes on and sends more, and the other sends nothing. -/
def inStep (n : Nat) (f : String) : Correspondence (StateM World) (StateM World) where
  holds P x y :=
    (∀ w, w.Open → P (x w).1 ∧ w.Extends (x w).2) ∧
    (∀ v, v.Shut n f → P (y v).1 ∧ (y v).2.Shut n f ∧ (y v).2.writes = v.writes) ∧
    ∀ w v, InStep n f w v → ((y v).1 = (x w).1 ∧ InStep n f (x w).2 (y v).2) ∨
      (P (y v).1 ∧ Parted n f (x w).2 (y v).2)
  pure h := ⟨fun _ hw => ⟨h, .refl hw⟩, fun _ hv => ⟨h, hv, rfl⟩, fun _ _ hwv => .inl ⟨rfl, hwv⟩⟩
  bind {_ _ _ _ x y g g'} hx hg := by
    obtain ⟨hopen, hshut, hstep⟩ := hx
    refine ⟨fun w hw => ?_, fun v hv => ?_, fun w v hwv => ?_⟩
    · obtain ⟨ha, hext⟩ := hopen w hw
      obtain ⟨hb, hext'⟩ := (hg _ ha).1 _ hext.isOpen
      exact ⟨hb, hext.trans hext'⟩
    · obtain ⟨ha, hv', hwrites⟩ := hshut v hv
      obtain ⟨hb, hv'', hwrites'⟩ := (hg _ ha).2.1 _ hv'
      exact ⟨hb, hv'', hwrites'.trans hwrites⟩
    · obtain ⟨ha, hext⟩ := hopen w hwv.isOpen
      obtain ⟨hsame, hwv'⟩ | ⟨hb, hparted⟩ := hstep w v hwv
      · have hrest := (hg _ ha).2.2 _ _ hwv'
        have hy : (y >>= g') v = g' (y v).1 (y v).2 := rfl
        rw [hy, hsame]
        exact hrest
      · obtain ⟨-, hext'⟩ := (hg _ ha).1 _ hext.isOpen
        obtain ⟨hc, hv, hwrites⟩ := (hg _ hb).2.1 _ hparted.shut
        exact .inr ⟨hc, hparted.apart hext' hv hwrites⟩

/-- The computation does not look at how many writes may succeed. -/
def Unaware {α : Type} (x : StateM World α) : Prop :=
  ∀ w n f, x (w.limited n f) = ((x w).1, (x w).2.limited n f)

/-- A process that neither touches the streams of the protocol nor looks at how many writes may
succeed, so that it takes the same time whether or not they do. -/
structure Aloof (q : Surroundings (StateM World)) : Prop extends Spares q where
  now_unaware : Unaware q.now
  clock_unaware : Unaware q.clock
  stopwatch_unaware : Unaware q.stopwatch
  variable_unaware : ∀ name, Unaware (q.variable_ name)
  spill_unaware : ∀ channel content, Unaware (q.spill channel content)

theorem aloof_surroundings : Aloof surroundings where
  toSpares := spares_surroundings
  now_unaware _ _ _ := rfl
  clock_unaware _ _ _ := rfl
  stopwatch_unaware _ _ _ := rfl
  variable_unaware _ _ _ _ := rfl
  spill_unaware _ _ _ _ _ := rfl

/-! ### Parts of a run -/

/-- What leaves the stream to write to alone is in step. -/
theorem inStep_aside {α : Type} {x : StateM World α} (hx : Unaware x)
    (hout : ∀ w, (x w).2.streams.transport.outbound = w.streams.transport.outbound) :
    (inStep n f).holds (fun _ => True) x x := by
  have hwrites (w : World) : (x w).2.writes = w.writes := congrArg Outbound.writes (hout w)
  refine ⟨fun w hw => ⟨trivial, .of_outbound hw (hout w)⟩,
    fun v hv => ⟨trivial, hv.of_outbound (hout v), hwrites v⟩, fun w v hwv => .inl ?_⟩
  obtain ⟨hopen, rfl, hroom⟩ := hwv
  rw [hx]
  exact ⟨rfl, (Extends.of_outbound hopen (hout w)).isOpen, rfl, by rw [hwrites]; exact hroom⟩

theorem inStep_log (e : Log.Event) : (inStep n f).holds (fun _ => True) (ports.log e) (ports.log e) :=
  inStep_aside (fun _ _ _ => rfl) fun _ => rfl

theorem inStep_readLine : (inStep n f).holds (fun _ => True) ports.readLine ports.readLine :=
  inStep_aside (fun _ _ _ => rfl) fun _ => rfl

/-- Where no write succeeds any more, a line is not written. -/
theorem writeLine_shut (h : v.Shut n f) {line : String} (hl : line.isEmpty = false) :
    ports.writeLine line v = (.error (.write f), v) := by
  have hput := Outbound.putLine_limited h.limit h.flush hl
  have hfull : n ≤ v.streams.transport.outbound.writes.length := h.full
  have hnone : n - v.streams.transport.outbound.writes.length = 0 := by omega
  rw [if_neg (by omega), hnone, List.take_zero, List.append_nil] at hput
  rw [writeLine_eq, Transport.writeLine, hput]

/-- A line is written in both worlds, or it is where they part. -/
theorem writeLine_inStep (h : InStep n f w v) {line : String} (hl : line.isEmpty = false) :
    ∃ w', ports.writeLine line w = (.ok (), w') ∧ w.Extends w' ∧
      ((∃ v', ports.writeLine line v = (.ok (), v') ∧ InStep n f w' v') ∨
        ∃ v', ports.writeLine line v = (.error (.write f), v') ∧ Parted n f w' v') := by
  obtain ⟨hopen, rfl, hroom⟩ := h
  let wrote (pieces : List String) : World :=
    { w with streams.transport.outbound.writes := w.writes ++ pieces }
  refine ⟨wrote [line, "\n"], by rw [writeLine_eq, Transport.writeLine_open hopen hl]; rfl,
    ⟨hopen, _, rfl⟩, ?_⟩
  have hput := Outbound.putLine_limited (o := (w.limited n f).streams.transport.outbound) rfl
    hopen.2 hl
  change _ = if w.writes.length + 2 ≤ n then _ else (_, _) at hput
  by_cases hfits : w.writes.length + 2 ≤ n
  · rw [if_pos hfits] at hput
    refine .inl ⟨(wrote [line, "\n"]).limited n f,
      by rw [writeLine_eq, Transport.writeLine, hput]; rfl, hopen, rfl, ?_⟩
    change (w.writes ++ [line, "\n"]).length ≤ n
    rw [List.length_append]
    exact hfits
  · rw [if_neg hfits] at hput
    have htake : (w.writes ++ [line, "\n"]).take n =
        w.writes ++ [line, "\n"].take (n - w.writes.length) := by
      rw [List.take_append, List.take_of_length_le hroom]
    have hmore : n < (w.writes ++ [line, "\n"]).length := by
      rw [List.length_append, List.length_cons, List.length_singleton]
      omega
    refine .inr ⟨(wrote ([line, "\n"].take (n - w.writes.length))).limited n f,
      by rw [writeLine_eq, Transport.writeLine, hput]; rfl, hopen, ⟨rfl, hopen.2, ?_⟩, hmore,
      htake.symm⟩
    change n ≤ (w.writes ++ [line, "\n"].take (n - w.writes.length)).length
    rw [← htake, List.length_take]
    omega

theorem inStep_writeLine {line : String} (hl : line.isEmpty = false) :
    (inStep n f).holds (fun _ => True) (ports.writeLine line) (ports.writeLine line) := by
  refine ⟨fun w hw => ⟨trivial, ?_⟩, fun v hv => ?_, fun w v hwv => ?_⟩
  · rw [writeLine_eq, Transport.writeLine_open hw hl]
    exact ⟨hw, _, rfl⟩
  · rw [writeLine_shut hv hl]
    exact ⟨trivial, hv, rfl⟩
  · obtain ⟨w', hw, -, ⟨v', hv, hstep⟩ | ⟨v', hv, hparted⟩⟩ := writeLine_inStep hwv hl
    · rw [hw, hv]
      exact .inl ⟨rfl, hstep⟩
    · rw [hw, hv]
      exact .inr ⟨trivial, hparted⟩

/-- Calls are in step up to the first whose request cannot be written. -/
theorem inStep_call (c : Bridge.Client) (method : String) (params : Json) :
    (inStep n f).holds (fun _ => True) (c.call ports method params) (c.call ports method params) :=
  call_holds inStep_log (fun _ => inStep_writeLine) inStep_readLine c method params

theorem outside_inStep {q : Surroundings (StateM World)} (hq : Aloof q) :
    (outside ports q).Corresponds ((inStep n f).stateful Client) (.asking fun _ => True)
      (outside ports q) := by
  have haside {α : Type} {x : StateM World α} (hx : Unaware x)
      (hout : ∀ w, (x w).2.streams = w.streams) :
      ((inStep n f).stateful Client).holds (fun _ => True) (liftM x) (liftM x) := fun c =>
    (inStep n f).bind_any (f := fun a => pure (a, c)) (g := fun a => pure (a, c))
      (inStep_aside hx fun w => by rw [hout]) fun _ => (inStep n f).pure trivial
  exact {
    now := haside hq.now_unaware hq.now
    clock := haside hq.clock_unaware hq.clock
    stopwatch := haside hq.stopwatch_unaware hq.stopwatch
    variable_ := fun name => haside (hq.variable_unaware name) (hq.variable_ name)
    log := fun e _ => (inStep n f).bind_any (inStep_log e) fun _ => (inStep n f).pure trivial
    spill := fun channel content _ =>
      haside (hq.spill_unaware channel content) (hq.spill channel content)
    ask := fun method params _ c => inStep_call c method params }

end World

/-! ### Rounds and runs -/

open World

variable {n : Nat} {f : String} {w w₁ w₂ : World} {q : Surroundings (StateM World)}
  {ports : Ports (StateM World)} {o : Outside (StateT Client (StateM World))} {fuel : Nat}
  {x : Server} {line : String} {client : Client} {response : Response} {session : Session}

/-- A run that could not write, or that was halted before it could return: evaluated code ended the
process (`.exit`), or there were no steps left (`.outOfSteps`). -/
def Failed {α : Type} (f : String) (r : Except Stop α) : Prop :=
  r = .error (.transport (.write f)) ∨ ∃ h, r = .error (.halt h)

/-- A part of the run that fails if it parts. -/
structure FailsApart {α : Type} (n : Nat) (f : String)
    (x : StateM World (Except Stop α × Server)) : Prop where
  extends_ : ∀ w : World, w.Open → w.Extends (x w).2
  inStep : ∀ w v : World, InStep n f w v → ((x v).1 = (x w).1 ∧ InStep n f (x w).2 (x v).2) ∨
    (Failed f (x v).1.1 ∧ Parted n f (x w).2 (x v).2)

namespace FailsApart

variable {α β : Type} {g : Except Stop α × Server → StateM World (Except Stop β × Server)}

theorem stop (r : Except Stop α × Server) : FailsApart n f (pure r) :=
  ⟨fun _ => .refl, fun _ _ h => .inl ⟨rfl, h⟩⟩

/-- After something that has nothing to do with writing. -/
theorem after {γ : Type} {x : StateM World γ} {g : γ → StateM World (Except Stop β × Server)}
    (hx : Unaware x)
    (hout : ∀ w, (x w).2.streams.transport.outbound = w.streams.transport.outbound)
    (hg : ∀ a, FailsApart n f (g a)) : FailsApart n f (x >>= g) := by
  refine ⟨fun w hw => ?_, fun w v hwv => ?_⟩
  · have hext := Extends.of_outbound hw (hout w)
    exact hext.trans ((hg _).extends_ _ hext.isOpen)
  · obtain ⟨hopen, rfl, hroom⟩ := hwv
    have hstep : InStep n f (x w).2 ((x w).2.limited n f) := by
      refine ⟨(Extends.of_outbound hopen (hout w)).isOpen, rfl, ?_⟩
      rw [World.writes, hout]
      exact hroom
    have hrest := (hg (x w).1).inStep _ _ hstep
    have hcut : (x >>= g) (w.limited n f) = g (x w).1 ((x w).2.limited n f) := by
      change g (x (w.limited n f)).1 (x (w.limited n f)).2 = _
      rw [hx]
    rw [hcut]
    exact hrest

/-- After a part that ends the run if it fails. -/
theorem bind {x : StateM World (Except Stop α × Server)} (hx : FailsApart n f x)
    (hok : ∀ a y, FailsApart n f (g (.ok a, y)))
    (herror : ∀ e y, g (.error e, y) = pure (.error e, y)) : FailsApart n f (x >>= g) := by
  have hg : ∀ r, FailsApart n f (g r) := by
    rintro ⟨e | a, y⟩
    · rw [herror]
      exact stop _
    · exact hok a y
  refine ⟨fun w hw => ?_, fun w v hwv => ?_⟩
  · have hext := hx.extends_ w hw
    exact hext.trans ((hg _).extends_ _ hext.isOpen)
  · obtain ⟨hsame, hwv'⟩ | ⟨hfailed, hparted⟩ := hx.inStep w v hwv
    · have hcut : (x >>= g) v = g (x w).1 (x v).2 := by
        change g (x v).1 (x v).2 = _
        rw [hsame]
      rw [hcut]
      exact (hg _).inStep _ _ hwv'
    · have hext := (hg (x w).1).extends_ _ (hx.extends_ w hwv.isOpen).isOpen
      rcases hv : x v with ⟨⟨e | a, y⟩, v'⟩
      · rw [hv] at hfailed hparted
        have hcut : (x >>= g) v = ((.error e, y), v') := by
          change g (x v).1 (x v).2 = _
          rw [hv]
          exact congrFun (herror e y) v'
        rw [hcut]
        refine .inr ⟨?_, hparted.apart hext hparted.shut rfl⟩
        obtain h | ⟨h, hh⟩ := hfailed
        · cases h
          exact .inl rfl
        · cases hh
          exact .inr ⟨h, rfl⟩
      · rw [hv] at hfailed
        obtain h | ⟨h, hh⟩ := hfailed
        · cases h
        · cases hh

end FailsApart

theorem answer_halts {h : Halt}
    (hd : dispatchLine o fuel x.session line x.client w = ((.error h, client), w₁)) :
    x.answer o ports fuel line w = ((.error (.halt h), { x with client := client }), w₁) := by
  simp only [Server.answer, StateT.run, Bind.bind, StateT.bind, Pure.pure, pure_stateT, hd]

theorem answer_sends
    (hd : dispatchLine o fuel x.session line x.client w = ((.ok (response, session), client), w₁))
    (hw : ports.writeLine response.encode w₁ = (.ok (), w₂)) :
    x.answer o ports fuel line w = ((.ok response.isError, ⟨session, client⟩), w₂) := by
  simp only [Server.answer, StateT.run, Bind.bind, StateT.bind, Pure.pure, pure_stateT, hd, hw]

theorem answer_fails {e : TransportError}
    (hd : dispatchLine o fuel x.session line x.client w = ((.ok (response, session), client), w₁))
    (hw : ports.writeLine response.encode w₁ = (.error e, w₂)) :
    x.answer o ports fuel line w = ((.error (.transport e), ⟨session, client⟩),
      (ports.log ⟨.error, serverTarget, "outbound stream failed"⟩ w₂).2) := by
  simp only [Server.answer, StateT.run, Bind.bind, StateT.bind, Pure.pure, pure_stateT, hd, hw]
  rfl

/-- When a line is dispatched, at most its response is still to be written. -/
theorem answer_extends {r : Except Halt (Response × Session)}
    (hd : dispatchLine o fuel x.session line x.client w = ((r, client), w₁)) (h : w₁.Open) :
    w₁.Extends (x.answer o World.ports fuel line w).2 := by
  rcases r with e | ⟨response, session⟩
  · rw [answer_halts hd]
    exact .refl h
  · have hwrite := Transport.writeLine_open h (response_isEmpty response)
    rw [answer_sends hd (by rw [writeLine_eq, hwrite])]
    exact ⟨h, _, rfl⟩

/-- Answering a line fails if it parts, whatever evaluated code makes of the calls it makes. -/
theorem answer_failsApart (hq : Aloof q) (fuel : Nat) (x : Server) (line : String) :
    FailsApart n f (x.answer (outside World.ports q) World.ports fuel line) := by
  have hp : (Policy.asking fun _ => True).Lasting := Policy.lasting_asking fun _ _ _ => trivial
  obtain ⟨hopen, -, hstep⟩ :=
    dispatchLine_holds hp (outside_inStep (n := n) (f := f) hq) fuel (Session.obeys_any x.session)
      line x.client
  refine ⟨fun w hw => (hopen w hw).2.trans (answer_extends rfl (hopen w hw).2.isOpen),
    fun w v hwv => ?_⟩
  rcases hd : dispatchLine (outside World.ports q) fuel x.session line x.client w with
    ⟨⟨r, client⟩, w₁⟩
  rcases hd' : dispatchLine (outside World.ports q) fuel x.session line x.client v with
    ⟨⟨r', client'⟩, v₁⟩
  have hround := hstep w v hwv
  rw [hd, hd'] at hround
  obtain ⟨hsame, hwv₁⟩ | ⟨-, hparted⟩ := hround
  · cases hsame
    rcases r with h | ⟨response, session⟩
    · rw [answer_halts hd, answer_halts hd']
      exact .inl ⟨rfl, hwv₁⟩
    · obtain ⟨w₂, hw, -, ⟨v₂, hv, hwv₂⟩ | ⟨v₂, hv, hparted⟩⟩ :=
        writeLine_inStep hwv₁ (response_isEmpty response)
      · rw [answer_sends hd hw, answer_sends hd' hv]
        exact .inl ⟨rfl, hwv₂⟩
      · rw [answer_sends hd hw, answer_fails hd' hv]
        exact .inr ⟨.inl rfl, hparted.apart (.refl hparted.isOpen)
          (hparted.shut.of_outbound rfl) rfl⟩
  · have hext := answer_extends hd hparted.isOpen
    rcases r' with h | ⟨response, session⟩
    · rw [answer_halts hd']
      exact .inr ⟨.inr ⟨h, rfl⟩, hparted.apart hext hparted.shut rfl⟩
    · have hv := writeLine_shut hparted.shut (response_isEmpty response)
      rw [answer_fails hd' hv]
      exact .inr ⟨.inl rfl, hparted.apart hext (hparted.shut.of_outbound rfl) rfl⟩

/-- So does the loop from any point on. The induction is on the number of lines. -/
theorem serveFrom_failsApart (hq : Aloof q) (fuel lines : Nat) (stats : Stats) (x : Server) :
    FailsApart n f (x.serveFrom (outside World.ports q) World.ports fuel lines stats) := by
  induction lines generalizing stats x with
  | zero => exact .stop _
  | succ lines ih =>
    refine .after (fun _ _ _ => rfl) (fun _ => rfl) fun r => ?_
    rcases r with e | _ | line
    · exact .after (fun _ _ _ => rfl) (fun _ => rfl) fun _ => .stop _
    · exact .stop _
    · exact (answer_failsApart hq fuel x line).bind (fun isError y => ih _ y) fun _ _ => rfl

/-- And so do whole runs. -/
theorem serve_failsApart (hq : Aloof q) (fuel : Nat) (x : Server) :
    FailsApart n f (x.serve World.ports q fuel) := by
  refine .after (fun _ _ _ => rfl) (fun _ => rfl) fun _ => ?_
  refine (serveFrom_failsApart hq fuel fuel {} x).bind (fun stats y => ?_) fun _ _ => rfl
  exact .after (fun _ _ _ => rfl) (fun _ => rfl) fun _ => .stop _

/-- When only the first `n` writes succeed, the run sends the first `n` pieces of what it sends when
all do. If there are more of them, it ends with the failure to write, unless evaluated code ends the
process before (`.exit`) or there are no steps left (`.outOfSteps`); if not, it comes to the same
end. -/
theorem serve_limited (hq : Aloof q) (x : Server) (fuel n : Nat) (f : String) (hw : w.Open)
    (hwrites : w.writes = []) :
    let whole := x.serve World.ports q fuel w
    let cut := x.serve World.ports q fuel (w.limited n f)
    cut.2.writes = whole.2.writes.take n ∧
      (n < whole.2.writes.length →
        cut.1.1 = .error (.transport (.write f)) ∨ ∃ h, cut.1.1 = .error (.halt h)) ∧
      (whole.2.writes.length ≤ n → cut.1 = whole.1) := by
  have hstart : InStep n f w (w.limited n f) := ⟨hw, rfl, by rw [hwrites]; exact Nat.zero_le n⟩
  obtain ⟨hsame, hstep⟩ | ⟨hfailed, hparted⟩ := (serve_failsApart hq fuel x).inStep _ _ hstart
  · have hcut := congrArg World.writes hstep.same
    refine ⟨?_, fun hmore => absurd hmore (Nat.not_lt.2 hstep.room), fun _ => hsame⟩
    rw [List.take_of_length_le hstep.room, hcut]
    rfl
  · exact ⟨hparted.writes, fun _ => hfailed, fun hle => absurd hparted.more (Nat.not_lt.2 hle)⟩

/-- A request whose code asks the host and goes on if that fails, and a line that is taken as the
reply. -/
def caughtInput : String :=
  "\x7b\"id\":1,\"method\":\"execute\",\"params\":\x7b\"code\":\"pcall(llm_query,'hi')\"\x7d\x7d\n" ++
    "nonsense\n"

/-- Whether a run was stopped by a program. -/
def halted : Except Stop Stats → Bool
  | .error (.halt _) => true
  | _ => false

/-- Where only the text of the call can be written, nothing follows it, and the run fails although
evaluated code goes on. -/
theorem serve_limited_sample : ∃ x : Server, Server.start "bridge" "context" = .ok x ∧
    let whole := x.serve World.ports World.surroundings 400 (.ofText caughtInput)
    let cut := x.serve World.ports World.surroundings 400 ((World.ofText caughtInput).limited 1 "gone")
    whole.2.writes.length = 4 ∧ cut.2.writes = whole.2.writes.take 1 ∧
      cut.1.1 = .error (.transport (.write "gone")) := by
  have h : (Server.start "bridge" "context").toOption.map (fun x =>
      ((x.serve World.ports World.surroundings 400 (.ofText caughtInput)).2.writes.length,
        halted (x.serve World.ports World.surroundings 400
          ((World.ofText caughtInput).limited 1 "gone")).1.1)) = some (4, false) := by
    decide +kernel
  rcases hx : Server.start "bridge" "context" with e | x
  · rw [hx] at h
    cases h
  · rw [hx] at h
    obtain ⟨hlength, hends⟩ := Prod.mk.inj (Option.some.inj h)
    obtain ⟨hwrites, hfails, -⟩ := serve_limited World.aloof_surroundings x 400 1 "gone"
      (World.ofText_open caughtInput) (World.ofText_writes _)
    refine ⟨x, rfl, hlength, hwrites, ?_⟩
    obtain hcut | ⟨e, hcut⟩ := hfails (by rw [hlength]; decide)
    · exact hcut
    · rw [hcut] at hends
      cases hends

end LuaSession.Service
