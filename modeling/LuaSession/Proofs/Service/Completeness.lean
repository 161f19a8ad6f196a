import LuaSession.Proofs.Lua.Parts
import LuaSession.Proofs.Service.Renewal

/-!
# What answers leave out

The value under a name is answered by its JSON form, or else by a string. Whether the JSON form shows
everything that the value holds is decided by the lists in it: what a list holds besides its sequence is
left out. Nothing else is, since no string is the key of two slots of a table, whatever was evaluated.

* `Policy.textsOnce`: the policy that keeps strings apart in all tables.
* `lookups_complete`: the answer to a request for a variable, and when it is complete.
-/

namespace LuaSession

open LuaSession.Lua

/-! ### Strings in tables -/

namespace Lua

/-- The policy that keeps strings apart in all tables. -/
def Policy.textsOnce : Policy where
  keeps m := ∀ t ∈ m.tables, t.TextsOnce
  allows _ := True

namespace Mem

variable {m : Mem}

theorem textsOnce_of_tables (h : Policy.textsOnce.keeps m) : m.TextsOnce := by
  intro id
  rw [table, Array.getD_eq_getD_getElem?]
  cases hid : m.tables[id]? with
  | none => exact Table.textsOnce_row ..
  | some t => exact h t (Array.mem_of_getElem? hid)

theorem textsOnce_modifyTable (h : Policy.textsOnce.keeps m) (id : Nat) {f : Table → Table}
    (hf : ∀ t, t.TextsOnce → (f t).TextsOnce) : Policy.textsOnce.keeps (m.modifyTable id f) := by
  intro t ht
  obtain ⟨i, hi, rfl⟩ := Array.getElem_of_mem ht
  simp only [modifyTable, Array.getElem_modify]
  simp only [modifyTable, Array.size_modify] at hi
  split
  · exact hf _ (h _ (Array.getElem_mem hi))
  · exact h _ (Array.getElem_mem hi)

end Mem

theorem Policy.stable_textsOnce : textsOnce.Stable where
  newTable _ _ ht h := fun u hu => (Array.mem_push.mp hu).elim (h u) fun heq => heq ▸ ht
  newFunc _ _ h := h
  newFailure _ _ h := h
  cells _ _ h := h
  frame _ _ _ h := h
  set _ id k v _ h := Mem.textsOnce_modifyTable h id fun _ ht => ht.set k v
  metatable _ id mark h := Mem.textsOnce_modifyTable h id fun _ ht => ht.metatable mark
  random _ _ h := h
  warnings _ _ h := h
  collector _ _ h := h

theorem Policy.lasting_textsOnce : textsOnce.Lasting where
  toStable := stable_textsOnce
  allows _ _ _ := trivial
  clear s h := by
    have hunset (es : List (Value × Value)) (t : Table) (ht : t.TextsOnce) :
        (es.foldl Table.unset t).TextsOnce := by
      induction es generalizing t with
      | nil => exact ht
      | cons e es ih => exact ih _ (ht.set e.1 .nil)
    rw [Session.clear, Session.foldl_bind]
    exact Mem.textsOnce_modifyTable h _ (hunset _)

theorem textsOnce_addMetatables {m : Mem} (strings : Value) (h : Policy.textsOnce.keeps m) :
    Policy.textsOnce.keeps (m.addMetatables strings) := by
  have hp := Policy.stable_textsOnce
  unfold Mem.addMetatables
  exact hp.addRecord _ (hp.addRecord _ (hp.addBuiltin _ (hp.addRecord _ (hp.addBuiltin _
    (hp.addLibrary _ _ _ (hp.newTable _ _ (Table.textsOnce_ofFields _) (hp.addNamed _ _ h)))))))

/-- In the libraries strings are apart. -/
theorem textsOnce_start : Policy.textsOnce.keeps Mem.start := by
  have hp := Policy.stable_textsOnce
  have h : Policy.textsOnce.keeps { cells := #[.nil], random := Random.seed 0 0 } :=
    fun t ht => absurd ht (Array.not_mem_empty t)
  unfold Mem.start
  iterate 2
    split
    rename_i m hm
    replace h := Policy.keeps_of_eq hm (hp.addBuiltin _ h)
  split
  rename_i m hm
  replace h := Policy.keeps_of_eq hm (hp.addNamed _ _ h)
  iterate 7
    split
    rename_i m hm
    replace h := Policy.keeps_of_eq hm (hp.addLibrary _ _ _ h)
  split
  rename_i m hm
  replace h := Policy.keeps_of_eq hm (hp.addRecord _ h)
  dsimp only
  refine fun t ht => textsOnce_addMetatables _ ?_ t ht
  exact hp.set _ _ _ _ (Value.isKey_text _) (hp.set _ _ _ _ (Value.isKey_text _)
    (hp.set _ _ _ _ (Value.isKey_text _) (hp.newTable _ _ (Table.textsOnce_ofFields _)
    (hp.addRecord _ (hp.addRecord _ h)))))

end Lua

namespace Session

theorem start_textsOnce {name : String} {s : Session} (h : start name = .ok s) :
    s.Obeys .textsOnce := by
  refine start_obeys h ?_
  have hp := Policy.stable_textsOnce
  have hlayer := hp.addLayer textsOnce_start
  unfold start at h
  split at h
  · cases h
  · generalize addLayer Mem.start = layer at h hlayer
    obtain ⟨layer, m⟩ := layer
    obtain rfl := Except.ok.inj h
    refine (bindHost_obeys hp (s := ⟨behind _ _ _, #[.active], _, name, "", {}⟩) ⟨?mem, ?threads⟩ _).mem
    case mem => exact hp.behind _ _ (hp.addRecord _ hlayer)
    case threads =>
      intro t ht
      rw [List.mem_toArray, List.mem_singleton] at ht
      subst ht
      trivial

end Session

namespace Service

variable {contextName : String} {s₀ s : Session} {past : List Event}

/-- In every session strings are apart in all tables. -/
theorem Reached.textsOnce (hstart : Session.start contextName = .ok s₀) (h : Reached s₀ past s) :
    s.mem.TextsOnce :=
  Mem.textsOnce_of_tables (h.obeys Policy.lasting_textsOnce (Session.start_textsOnce hstart)).mem

/-- A value without a JSON form is answered by a string, which is the one that programs get for it. -/
theorem result_of_json_none {W : Type} {o : Outside (StateM W)} {fuel : Nat} {name : String}
    {w w' : W} {result : Json} {s' : Session} (hnil : (s.bound (.text name)).isNil = false)
    (hjson : s.mem.json? (s.bound (.text name)) = none)
    (h : perform o fuel s (.getVariable name) w = (.ok (result, s'), w')) :
    ∃ r text, s.run o fuel (Session.textOf (s.bound (.text name))) w = (.ok (r, s'), w') ∧
      result = lookupResult ⟨true, .str text⟩ ∧
      ∀ b rest, r = .ok (.str b :: rest) → text = Text.Utf8.decodeBytes b := by
  rw [Session.bound] at hnil hjson ⊢
  simp only [perform, Session.lookup_bound o fuel hnil, Session.present, hjson, bind, StateT.bind] at h
  rcases hrun : s.run o fuel (Session.textOf (s.mem.rawGet s.bindings (.text name))) w with
    ⟨e | ⟨r, s₁⟩, w₁⟩
  · rw [hrun] at h
    cases h
  · rw [hrun] at h
    cases h
    exact ⟨r, _, rfl, rfl, by rintro b rest rfl; rfl⟩

/-- **What answers leave out.** A name that is bound in any session is answered by the JSON form of its
value if there is one, and by a string if there is none. The form shows all that is reached from the value,
and values that have tables which are neither sequences nor records have none, just if the value has no
form or every table that is reached and read as a list is a sequence. -/
theorem lookups_complete (hstart : Session.start contextName = .ok s₀) (h : Reached s₀ past s)
    {name : String} {v : Value} (hbound : s.bound (.text name) = v) (hnil : v.isNil = false)
    (hplaces : s.mem.Bounded v) :
    (∀ j, s.mem.json? v = some j →
      (Command.getVariable name).Gives s (lookupResult ⟨true, j⟩) s) ∧
    (s.mem.json? v = none → ∀ {W : Type} (o : Outside (StateM W)) (fuel : Nat) (w w' : W)
      (result : Json) (s' : Session),
      perform o fuel s (.getVariable name) w = (.ok (result, s'), w') →
        ∃ r text, s.run o fuel (Session.textOf v) w = (.ok (r, s'), w') ∧
          result = lookupResult ⟨true, .str text⟩ ∧
          ∀ b rest, r = .ok (.str b :: rest) → text = Text.Utf8.decodeBytes b) ∧
    (s.mem.Complete v ↔ s.mem.json? v = none ∨
      ∀ ks id, s.mem.Reaches v ks (.table id) → s.mem.Listed id → (s.mem.table id).IsSequence) := by
  refine ⟨fun j hj => gives_getVariable fun o fuel => Session.lookup_json o fuel hbound hnil hj,
    fun hjson W o fuel w w' result s' hperform => ?_, Mem.complete_iff (h.textsOnce hstart) hplaces⟩
  subst hbound
  exact result_of_json_none hnil hjson hperform

/-! ### Lists -/

/-- A value that is an integer or a string. -/
def isPlain : Value → Bool
  | .int _ | .str _ => true
  | _ => false

/-- What is reached from a table of plain values is the table, or plain. -/
theorem reaches_plain {m : Mem} {id : Nat} (hplain : ∀ v ∈ m.contents id, isPlain v = true)
    {ks : List Value} {w : Value} (h : m.Reaches (.table id) ks w) :
    w = .table id ∨ isPlain w = true := by
  cases h with
  | refl => exact .inl rfl
  | @key _ k ks _ hk hrest =>
    right
    obtain ⟨e, he, -, hv⟩ := Table.entry_of_get (normalKey_normalKey k)
      (by rw [Table.get_normalKey]; exact hk)
    have hvalue := hplain e.2 (List.mem_flatMap.mpr ⟨e, he, by simp⟩)
    rw [hv, Table.get_normalKey] at hvalue
    generalize (m.table id).get k = v at hrest hvalue
    cases hrest with
    | refl => exact hvalue
    | key => cases hvalue

/-- Whether `t` is bound to a small table of integers and strings, and two integers are shown for it. -/
def showsPair (s : Session) : Bool :=
  match s.bound (.text "t") with
  | .table id =>
    (s.mem.contents id).all isPlain &&
    decide ((s.mem.table id).row.size + (s.mem.table id).slots.size + 1 < 0x8000000000000000) &&
    match s.mem.jsonFrom (s.mem.tables.size + 1) [] (.table id) with
    | some (.arr [.int a, .int b]) => decide (a = 1 ∧ b = 2)
    | _ => false
  | _ => false

theorem pair_of_showsPair (h : showsPair s = true) : ∃ id, s.bound (.text "t") = .table id ∧
    (∀ ks w, s.mem.Reaches (.table id) ks w → w = .table id ∨ isPlain w = true) ∧
    s.mem.Bounded (.table id) ∧ s.mem.json? (.table id) = some (.arr [.int 1, .int 2]) := by
  unfold showsPair at h
  split at h
  case h_2 => cases h
  rename_i id hbound
  simp only [Bool.and_eq_true, List.all_eq_true, decide_eq_true_eq] at h
  obtain ⟨⟨hcontents, hsize⟩, hjson⟩ := h
  refine ⟨id, hbound, fun _ _ => reaches_plain hcontents, fun ks id' hreach => ?_, ?_⟩
  · obtain heq | hvalue := reaches_plain hcontents hreach
    · cases heq
      exact hsize
    · cases hvalue
  · have hfinite : s.mem.hasNonFinite (.table id) = false := by
      refine Mem.reachesNonFinite_eq_false (P := fun v => v = .table id ∨ isPlain v = true)
        (fun x hx => ?_) (fun id' hid v hv => ?_) _ (by simp)
      · rcases hx with hx | hx <;> cases hx
      · rcases hid with hid | hid <;> cases hid
        exact .inr (hcontents v hv)
    rw [Mem.json?, hfinite, if_neg Bool.false_ne_true]
    split at hjson
    · rename_i a b hfrom
      obtain ⟨rfl, rfl⟩ := of_decide_eq_true hjson
      exact hfrom
    · cases hjson

/-- A program that binds a sequence. -/
def wholeProgram : String := "t = \x7b1, 2\x7d"

/-- Whether two integers are shown for a table that has only a row. -/
def showsWhole (s : Session) : Bool :=
  showsPair s && match s.bound (.text "t") with
    | .table id => match s.mem.tables[id]? with
      | some ⟨row, slots, _, _⟩ =>
        decide (row.size = 2 ∧ slots.size = 0) && row.toList.all fun v => !v.isNil
      | none => false
    | _ => false

/-- A sequence of two integers is shown wholly. -/
theorem lookups_complete_sample : ∃ (s₀ s : Session) (past : List Event) (id : Nat),
    Session.start "context" = .ok s₀ ∧ Reached s₀ past s ∧ s.bound (.text "t") = .table id ∧
    s.mem.Bounded (.table id) ∧
    (Command.getVariable "t").Gives s (lookupResult ⟨true, .arr [.int 1, .int 2]⟩) s ∧
    s.mem.Complete (.table id) := by
  obtain ⟨s₀, result, s, v, hstart, hfirst, h⟩ := exists_evaluated wholeProgram
    (fun s _ => showsWhole s) (by decide +kernel)
  have hs : Reached s₀ _ s := .perform .start hfirst
  unfold showsWhole at h
  rw [Bool.and_eq_true] at h
  obtain ⟨id, hbound, hreaches, hplaces, hjson⟩ := pair_of_showsPair h.1
  obtain ⟨hgives, -, hcomplete⟩ := lookups_complete hstart hs hbound rfl hplaces
  refine ⟨s₀, s, _, id, hstart, hs, hbound, hplaces, hgives _ hjson, hcomplete.mpr (.inr ?_)⟩
  intro ks id' hreach _
  obtain heq | hvalue := hreaches ks _ hreach
  · cases heq
    have hrow := h.2
    rw [hbound] at hrow
    dsimp only at hrow
    split at hrow
    · rename_i row slots room mark htable
      rw [Bool.and_eq_true, decide_eq_true_eq, List.all_eq_true] at hrow
      obtain ⟨⟨hsize, hslots⟩, hrow⟩ := hrow
      rw [Mem.table_eq htable, Array.eq_empty_of_size_eq_zero hslots]
      exact Table.isSequence_row room mark (by rw [hsize]; decide)
        fun v hv => Bool.not_eq_true' v.isNil ▸ hrow v hv
    · cases hrow
  · cases hvalue

/-- A program that binds a sequence with a field. -/
def lossyProgram : String := "t = \x7b1, 2, x = 3\x7d"

/-- Whether two integers are shown for a table that has a field. -/
def hidesField (s : Session) : Bool :=
  showsPair s && match s.bound (.text "t") with
    | .table id => match (s.mem.table id).get (.text "x") with
      | .int n => decide (n = 3)
      | _ => false
    | _ => false

/-- The field of a sequence is left out. -/
theorem field_left_out : ∃ (s₀ s : Session) (past : List Event) (id : Nat),
    Session.start "context" = .ok s₀ ∧ Reached s₀ past s ∧ s.bound (.text "t") = .table id ∧
    (Command.getVariable "t").Gives s (lookupResult ⟨true, .arr [.int 1, .int 2]⟩) s ∧
    s.mem.Reaches (.table id) [.text "x"] (.int 3) ∧
    (Json.arr [.int 1, .int 2]).parts? [.text "x"] = none ∧ ¬s.mem.Complete (.table id) := by
  obtain ⟨s₀, result, s, v, hstart, hfirst, h⟩ := exists_evaluated lossyProgram
    (fun s _ => hidesField s) (by decide +kernel)
  have hs : Reached s₀ _ s := .perform .start hfirst
  unfold hidesField at h
  rw [Bool.and_eq_true] at h
  obtain ⟨id, hbound, -, -, hjson⟩ := pair_of_showsPair h.1
  have hfield := h.2
  rw [hbound] at hfield
  dsimp only at hfield
  split at hfield
  case h_2 => cases hfield
  rename_i n hget
  obtain rfl := of_decide_eq_true hfield
  have hreach : s.mem.Reaches (.table id) [.text "x"] (.int 3) := by
    have hkey : s.mem.Reaches (.table id) [.text "x"] ((s.mem.table id).get (.text "x")) :=
      .key (by rw [hget]; rfl) (.refl _)
    rwa [hget] at hkey
  have hnone : (Json.arr [.int 1, .int 2]).parts? [.text "x"] = none := rfl
  refine ⟨s₀, s, _, id, hstart, hs, hbound, ?_, hreach, hnone, fun hcomplete => ?_⟩
  · exact gives_getVariable fun o fuel => Session.lookup_json o fuel hbound rfl hjson
  · obtain ⟨part, hpart, -⟩ := hcomplete.kept _ hjson _ _ hreach
    rw [hnone] at hpart
    cases hpart

end Service

end LuaSession
