import LuaSession.Proofs.Lua.Exchange
import LuaSession.Proofs.Search.Embedded
import LuaSession.Proofs.Service.Context
import LuaSession.Proofs.Service.Renewal

/-!
# Structures that programs take from a text

What a program takes from a text and binds is found as it stands in the text. Nothing is asked of the
program, and of the time in between only that the tables of the value are not changed.

* `Policy.marking`: the mark by which arrays are known stays the same.
* `searchIn_extractJson`: what a call comes to.
* `extracted_found`: the value under a name that is bound to it.
-/

namespace LuaSession

open LuaSession.Lua

namespace Lua

/-! ### The mark of lists -/

/-- The policy that keeps the mark of lists. -/
def Policy.marking (mark : Option Nat) : Policy where
  keeps m := m.listMeta = mark
  allows _ := True

theorem Policy.stable_marking (mark : Option Nat) : (marking mark).Stable where
  newTable _ _ _ h := h
  newFunc _ _ h := h
  newFailure _ _ h := h
  cells _ _ h := h
  frame _ _ _ h := h
  set _ _ _ _ _ h := h
  metatable _ _ _ h := h
  random _ _ h := h
  warnings _ _ h := h
  collector _ _ h := h

theorem Policy.lasting_marking (mark : Option Nat) : (marking mark).Lasting where
  toStable := stable_marking mark
  allows _ _ _ := trivial
  clear s h := by
    rw [Session.clear, Session.foldl_bind]
    exact h

/-- What a run comes to obeys what it obeys at its beginning. -/
theorem Running.Leads.obeys {W : Type} {o : Outside (StateM W)} {context : String} {p : Policy}
    (hp : p.Liberal) {u v : Running W} (h : Running.Leads o context u v) (hx : u.machine.Obeys p)
    (hs : u.step.Obeys p) : v.machine.Obeys p ∧ v.step.Obeys p := by
  induction h with
  | refl => exact ⟨hx, hs⟩
  | @next v t _ hnext ih =>
    obtain ⟨fuel, sink, x, s, w⟩ := v
    have hafter := Machine.advance_obeys hp.toStable ih.1 ih.2 fun b _ _ r => hp.allows b r
    cases fuel with
    | zero => cases hnext
    | succ fuel =>
      unfold Running.next? at hnext
      dsimp only at hnext hafter
      generalize x.advance s = after at hnext hafter
      rcases after with ⟨t, y⟩ | ⟨r, k, mem, y⟩ | ⟨result, mem, y⟩
      · cases hnext
        exact ⟨hafter.2, hafter.1⟩
      · obtain ⟨hm, -, hk, hy⟩ := hafter
        dsimp only at hnext
        rcases hr : r.answer o context sink w with ⟨e | ⟨reply, sink'⟩, w'⟩
        · rw [hr] at hnext
          cases hnext
        · rw [hr] at hnext
          cases hnext
          exact ⟨hy, hk _ _ hm⟩
      · cases hnext

/-! ### A call -/

/-- The text that a function reads: the one it is given, or else the context. -/
def textRead (context : String) : List Value → Option (List Char)
  | [] | .nil :: _ => some context.toList
  | v :: _ => (toBytes? v).map fun b => (Text.Utf8.decodeBytes b).toList

theorem textOr_eq {context : String} {args : List Value} {text : List Char}
    (h : textRead context args = some text) (site : Site) (path : String) :
    HostFn.textOr (pure context.toList) ⟨args, site, path⟩ 1 = pure text := by
  unfold textRead at h
  split at h
  · cases h
    rfl
  · cases h
    rfl
  · rename_i v rest hnil
    obtain ⟨b, hb, rfl⟩ := Option.map_eq_some_iff.mp h
    have hgiven : (Call.mk (v :: rest) site path).lacks 1 = false := by
      cases v with
      | nil => exact absurd rfl hnil
      | _ => rfl
    have harg : (Call.mk (v :: rest) site path).arg 1 = v := rfl
    simp only [HostFn.textOr, hgiven, HostFn.looseText, HostFn.byteString, harg, hb]
    rfl

theorem searchIn_extractJson {context : String} {args : List Value} {text : List Char} {v : Json}
    (htext : textRead context args = some text) (hv : Search.embeddedJson text = some v)
    (site : Site) (m : Mem) :
    searchIn context .extractJson args site m =
      .leave (.give [({ m with slots := #[], act := {} }.ofJson v).1])
        ({ m with slots := #[], act := {} }.ofJson v).2 := by
  simp only [searchIn, HostFn.search, textOr_eq htext, pure_bind, hv]
  rfl

/-- What follows when the context was told obeys what the step before obeys. -/
theorem Step.Told.obeys {context : String} {p : Policy} {s t : Step} (h : s.Told context t)
    (hs : s.Obeys p) : t.Obeys p := by
  obtain rfl | ⟨k, m, rfl, rfl⟩ := h
  · exact hs
  · exact hs.2.2 context m hs.1

end Lua

namespace Session

theorem bindHost_listMeta (s : Session) (fns : List (String × HostFn)) :
    (s.bindHost fns).mem.listMeta = s.mem.listMeta := by
  induction fns generalizing s with
  | nil => rfl
  | cons f fns ih => exact ih _

/-- A new session has a mark for lists. -/
theorem start_listMeta {name : String} {s : Session} (h : start name = .ok s) :
    s.mem.listMeta.isSome = true := by
  have hnew : Mem.start.listMeta.isSome = true := by
    rw [Mem.start]
    rfl
  have hlayer (m : Mem) : (addLayer m).2.listMeta = m.listMeta := rfl
  rw [← hlayer] at hnew
  unfold start at h
  split at h
  · cases h
  · generalize addLayer Mem.start = layer at h hnew
    obtain ⟨layer, m⟩ := layer
    cases h
    rw [bindCallbacks, bindHost_listMeta]
    exact hnew

end Session

namespace Service

variable {contextName : String} {s₀ s : Session} {past : List Event}

/-- Every session knows arrays by the mark that it was started with. -/
theorem Reached.marking (hstart : Session.start contextName = .ok s₀) (h : Reached s₀ past s) :
    s.Obeys (.marking s₀.mem.listMeta) :=
  h.obeys (Policy.lasting_marking _) (Session.start_obeys hstart rfl)

/-- **A structure that a program takes from a text is found as it is.** What is made from a canonical
value that is plain is read back as the value, wherever it is made. So when a program that is evaluated
in any session calls the function for this on a text, or on the context, and the structure there is
plain, the call gives a value that is found as the structure, whenever and under whichever name the value
is bound in a session whose programs left its tables as they were. -/
theorem extracted_found (hstart : Session.start contextName = .ok s₀) (h : Reached s₀ past s) :
    (∀ (m : Mem) (v : Json), m.listMeta = s.mem.listMeta → v.Canonical → v.Plain →
      (m.ofJson v).2.json? (m.ofJson v).1 = some v) ∧
    ∀ {W : Type} (o : Outside (StateM W)) (fuel : Nat) (sink : Sink) (f : Proto) (w : W)
      (u : Running W) (args : List Value) (site : Site) (m : Mem) (y : Machine) (text : List Char)
      (v : Json),
      (Session.begun { s with sink := sink } fuel (s.chunk f) w).Leads o s.text u →
      u.machine.advance u.step =
        .step (Machine.enterBuiltin (.host (.utility .extractJson)) args site m) y →
      textRead s.text args = some text → text.length < 0x8000000000000000 →
      Search.embeddedJson text = some v → v.Plain →
      ∃ value m', m.atRest.ofJson v = (value, m') ∧
        (Machine.enterBuiltin (.host (.utility .extractJson)) args site m).Told s.text
          (.leave (.give [value]) m') ∧
        ∀ (s' : Session) (past' : List Event) (name : String), Reached s₀ past' s' →
          s'.bound (.text name) = value →
          (∀ id, m.tables.size ≤ id → id < m'.tables.size → s'.mem.tables[id]? = m'.tables[id]?) →
          (Command.getVariable name).Gives s' (lookupResult ⟨true, v⟩) s' := by
  have hmark := Session.start_listMeta hstart
  have hs := h.marking hstart
  refine ⟨fun m v hm hc hv => ?_, ?_⟩
  · obtain ⟨hadds, hspells⟩ := m.ofJson_spells v hc hv
    refine hspells.json?_eq ?_
    rw [hadds.listMeta, hm, hs.mem]
    exact hmark
  intro W o fuel sink f w u args site m y text v hleads henters htext hsize hv
    hplain
  obtain ⟨hadds, hspells⟩ := m.atRest.ofJson_spells v (Search.embeddedJson_canonical hv hsize) hplain
  have htold : (Machine.enterBuiltin (.host (.utility .extractJson)) args site m).Told s.text
      (.leave (.give [(m.atRest.ofJson v).1]) (m.atRest.ofJson v).2) := by
    have hsearch := HostFn.search_told ⟨args, site, Builtin.path (.host (.utility .extractJson))⟩
      s.text .extractJson (fun vs => .leave (.give vs)) m.atRest
    have hgives := searchIn_extractJson htext hv site m
    rw [searchIn] at hgives
    change Step.Told s.text _ (HostFn.search _ _ _ _ _) at hsearch
    exact hgives ▸ hsearch
  have hbegun : u.machine.Obeys (.marking s₀.mem.listMeta) ∧ u.step.Obeys (.marking s₀.mem.listMeta) :=
    hleads.obeys (Policy.lasting_marking _).toLiberal
      ⟨hs.threads, List.forall_mem_nil _, List.forall_mem_nil _⟩
      (Task.first_obeys (Session.chunk_obeys (Policy.stable_marking _) s f) hs.mem)
  have hentered := Machine.advance_obeys (Policy.stable_marking _) hbegun.1 hbegun.2
    fun _ _ _ _ _ => trivial
  rw [henters] at hentered
  have hkept : (m.atRest.ofJson v).2.listMeta = s₀.mem.listMeta := htold.obeys hentered.1
  refine ⟨_, _, rfl, htold, fun s' past' name h' hbound htables => ?_⟩
  have hmark' : s'.mem.listMeta = s₀.mem.listMeta := (h'.marking hstart).mem
  have hsame : Mem.SameBetween m.tables.size (m.atRest.ofJson v).2.tables.size
      (m.atRest.ofJson v).2 s'.mem := ⟨hmark'.trans hkept.symm, htables⟩
  have hfound := (hspells.stays (Nat.le_refl _) (Nat.le_refl _) hsame).json?_eq
    (by rw [hmark']; exact hmark)
  refine @gives_getVariable s' name ⟨true, v⟩ fun o fuel => ?_
  exact Session.lookup_json o fuel hbound hspells.isNil hfound

/-- An object with keys that look like numbers, and with an array and an object that are empty. -/
def sampleRecord : Json :=
  .obj [("1", .arr []), ("2", .obj []), ("a", .arr [.int (-1), .arr [.str "1"], .bool false])]

/-- A run some steps later. -/
def runAfter {W : Type} (o : Outside (StateM W)) (context : String) (u : Running W) :
    Nat → Option (Running W)
  | 0 => some u
  | n + 1 => (runAfter o context u n).bind (·.next? o context)

theorem leads_runAfter {W : Type} {o : Outside (StateM W)} {context : String} {u v : Running W}
    {n : Nat} (h : runAfter o context u n = some v) : Running.Leads o context u v := by
  induction n generalizing v with
  | zero =>
    cases h
    exact .refl u
  | succ n ih =>
    obtain ⟨t, ht, hv⟩ := Option.bind_eq_some_iff.mp h
    exact .next (ih ht) hv

/-- Whether a run is about to take an empty array from the context, and a name is bound to that in the
session that is left. -/
def takesEmpty (u : Running (Bridge.Client × World)) (s' : Session) : Bool :=
  match u.step with
  | .call (.func id) [] _ _ m =>
    match m.funcs[id]?, s'.bound (.text "x"), s'.mem.tables[m.tables.size]? with
    | some (.builtin (.host (.utility .extractJson))), .table t, some ⟨row, slots, room, mark⟩ =>
      decide (t = m.tables.size ∧ row.size = 0 ∧ slots.size = 0 ∧ room = 0 ∧ mark = m.listMeta ∧
        u.machine.base + u.machine.depth.native + 1 < Machine.nativeLimit ∧
        u.machine.depth.calls + 1 < Machine.callLimit)
    | _, _, _ => false
  | _ => false

/-- The table of the empty array is the one that the call makes. -/
theorem enters_of_takesEmpty {u : Running (Bridge.Client × World)} {s' : Session}
    (h : takesEmpty u s' = true) : ∃ site m y,
      u.machine.advance u.step =
        .step (Machine.enterBuiltin (.host (.utility .extractJson)) [] site m) y ∧
      ∃ value m', m.atRest.ofJson (.arr []) = (value, m') ∧ s'.bound (.text "x") = value ∧
        ∀ id, m.tables.size ≤ id → id < m'.tables.size → s'.mem.tables[id]? = m'.tables[id]? := by
  unfold takesEmpty at h
  split at h
  · rename_i id site k m hstep
    split at h
    · rename_i t row slots room mark hfunc hbound htable
      obtain ⟨rfl, hrow, hslots, rfl, rfl, hnative, hcalls⟩ := of_decide_eq_true h
      refine ⟨site, m, u.machine.within m site k, ?_, .table m.tables.size, _, rfl, hbound,
        fun id hid hid' => ?_⟩
      · rw [hstep]
        exact Machine.advance_call ⟨hnative, hcalls⟩ hfunc [] site k
      · have hlast : id = m.tables.size := by
          simp only [Mem.atRest, Array.size_push] at hid'
          omega
        rw [hlast, htable, Array.eq_empty_of_size_eq_zero hrow, Array.eq_empty_of_size_eq_zero hslots]
        exact Array.getElem?_push_size.symm
    · cases h
  · cases h

/-- A program that binds what the context holds. -/
def extractingProgram : String := "x = extract_json()"

/-- A value of each kind, and a program that binds an array. -/
theorem extracted_found_sample : ∃ (s₀ s s' : Session) (past past' : List Event),
    Session.start "context" = .ok s₀ ∧ Reached s₀ past s ∧ s.text = "see []" ∧ Reached s₀ past' s' ∧
    (s.mem.ofJson sampleRecord).2.json? (s.mem.ofJson sampleRecord).1 = some sampleRecord ∧
    (Command.getVariable "x").Gives s' (lookupResult ⟨true, .arr []⟩) s' := by
  have h : ((Session.start "context").toOption.bind fun s₀ =>
      (BasicFn.compile (bytes extractingProgram) Session.chunkSource (bytes "bt")).toOption.bind
        fun f => (runAfter serverOutside "see []" ((s₀.setContext "see []").begun 400
          ((s₀.setContext "see []").chunk f) (⟨"bridge", 0⟩, {})) 2).bind fun u =>
      (perform serverOutside 400 (s₀.setContext "see []") (.execute extractingProgram)
        (⟨"bridge", 0⟩, {})).1.toOption.map fun r => takesEmpty u r.2) = some true := by
    decide +kernel
  rcases hstart : Session.start "context" with e | s₀
  · rw [hstart] at h
    cases h
  simp only [hstart, Except.toOption, Option.bind_some] at h
  obtain ⟨f, -, h⟩ := Option.bind_eq_some_iff.mp h
  obtain ⟨u, hu, h⟩ := Option.bind_eq_some_iff.mp h
  rcases hrun : perform serverOutside 400 (s₀.setContext "see []") (.execute extractingProgram)
    (⟨"bridge", 0⟩, {}) with ⟨e | ⟨result, s'⟩, w⟩
  · rw [hrun] at h
    cases h
  rw [hrun] at h
  have htext := Session.setContext_text s₀ "see []"
  have hs : Reached s₀ _ (s₀.setContext "see []") :=
    .perform .start (Prod.ext (gives_setContext s₀ "see []" serverOutside 0 (⟨"bridge", 0⟩, {})) rfl)
  have hs' : Reached s₀ _ s' := .perform hs hrun
  obtain ⟨hjson, hfound⟩ := extracted_found hstart hs
  obtain ⟨site, m, y, henters, value, m', hmade, hbound, htables⟩ :=
    enters_of_takesEmpty (Option.some.inj h)
  obtain ⟨value', m₁, hmade', -, hgives⟩ := hfound serverOutside 400 (s₀.setContext "see []").sink f
    (⟨"bridge", 0⟩, {}) u [] site m y "see []".toList (.arr []) (htext.symm ▸ leads_runAfter hu)
    henters (by rw [htext]; rfl) (by decide) rfl trivial
  cases hmade.symm.trans hmade'
  have hcanonical : sampleRecord.Canonical :=
    ⟨by decide, ⟨by decide, trivial⟩, ⟨.nil, trivial⟩,
      ⟨by decide, trivial, ⟨by decide, trivial, trivial⟩, trivial, trivial⟩, trivial⟩
  have hplain : sampleRecord.Plain :=
    ⟨trivial, trivial, ⟨⟨by decide, by decide⟩, ⟨trivial, trivial⟩, trivial, trivial⟩, trivial⟩
  exact ⟨s₀, _, s', _, _, rfl, hs, htext, hs', hjson _ _ rfl hcanonical hplain,
    hgives s' _ "x" hs' hbound htables⟩

end Service

end LuaSession
