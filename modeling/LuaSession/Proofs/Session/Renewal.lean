import LuaSession.Proofs.Lua.Exchange
import LuaSession.Proofs.Session.Bindings
import LuaSession.Proofs.Session.Reading

/-!
# What comes with a context

A session that is given a context binds it, and then binds twelve functions of the host anew. Nothing
else is bound by this and nothing else is changed, whatever the bindings are. Memory is never
reclaimed, so what was bound stays bound until it is unbound.

* `Session.setContext_offers`: the functions are there, whatever the name of the context.
* `Session.bound_setContext_name`, `Session.bound_setContext_of_ne`: the context and all other bindings.
* `Session.setContext_alike`: a context that was given before makes no difference.
* `Session.bound_renewed`: what is bound in a session that was destroyed before.
* `Session.lookup_text`, `Session.Offers.calls`: what requests and programs see of it.
-/

namespace LuaSession

open LuaSession.Lua

/-- The functions that come with a context, under their names. -/
def hostFns : List (String × HostFn) :=
  Callback.all.map (fun f => (f.name, .callback f)) ++ Utility.all.map fun f => (f.name, .utility f)

/-- Their names. -/
def hostNames : List String := hostFns.map (·.1)

theorem hostNames_nodup : hostNames.Nodup := by decide

/-- The JSON form of a text. -/
theorem Lua.Mem.json?_text (m : Mem) (text : String) : m.json? (.text text) = some (.str text) := by
  have hfinite : m.hasNonFinite (.text text) = false := by
    simp only [hasNonFinite, Value.text, reachesNonFinite]
  rw [json?, hfinite]
  simp only [Value.text, jsonFrom, utf8?_bytes, Option.map_some, Bool.false_eq_true, if_false]

namespace Session

variable {s : Session} {key : Value} {name : String} {f : HostFn}

/-! ### One binding -/

/-- What a key is bound to. -/
def bound (s : Session) (key : Value) : Value := s.mem.rawGet s.bindings key

/-- The name is bound to this function of the host, which is none of the first `n` functions. -/
def Offers (s : Session) (n : Nat) (name : String) (f : HostFn) : Prop :=
  ∃ id, n ≤ id ∧ s.bound (.text name) = .func id ∧ s.mem.funcs[id]? = some (.builtin (.host f))

theorem Offers.mono {n n' : Nat} (h : s.Offers n' name f) (hn : n ≤ n') : s.Offers n name f := by
  obtain ⟨id, hid, hbound⟩ := h
  exact ⟨id, Nat.le_trans hn hid, hbound⟩

theorem Offers.isNil {n : Nat} (h : s.Offers n name f) : (s.bound (.text name)).isNil = false := by
  obtain ⟨id, -, hbound, -⟩ := h
  rw [hbound]
  rfl

theorem bind_sound (h : s.Sound) (name : String) (value : Value) :
    (s.bind (.text name) value).Sound :=
  (Policy.stable_sound s.bindings).set _ _ _ _ (Value.isKey_text name) h

theorem bound_bind_self (h : s.Sound) (name : String) (value : Value) :
    (s.bind (.text name) value).bound (.text name) = value := by
  obtain ⟨t, ht, hsound⟩ := h
  simp only [bound, bind, Mem.rawGet, Mem.rawSet, Array.getElem?_modify, ht, if_pos, Option.map_some]
  rw [hsound.get_set (Value.isKey_text name)]
  exact if_pos (Value.rawEq_self (Value.isKey_text name))

theorem bound_bind_of_ne (h : s.Sound) (value : Value) (hkey : key ≠ .text name) :
    (s.bind (.text name) value).bound key = s.bound key := by
  obtain ⟨t, ht, hsound⟩ := h
  simp only [bound, bind, Mem.rawGet, Mem.rawSet, Array.getElem?_modify, ht, if_pos, Option.map_some]
  exact hsound.get_set_text name value hkey

/-! ### Functions of the host -/

/-- Binds one new function of the host under its name. -/
def bindFn (s : Session) (e : String × HostFn) : Session :=
  { s with mem := (s.mem.newFunc (.builtin (.host e.2))).2 }.bind (.text e.1) (.func s.mem.funcs.size)

theorem bindHost_eq_foldl (s : Session) (fns : List (String × HostFn)) :
    s.bindHost fns = fns.foldl bindFn s := by
  induction fns generalizing s with
  | nil => rfl
  | cons e fns ih => exact ih _

section BindFn

variable (e : String × HostFn)

theorem bindFn_sound (h : s.Sound) : (s.bindFn e).Sound :=
  bind_sound (s := { s with mem := (s.mem.newFunc (.builtin (.host e.2))).2 }) h e.1 _

theorem bindFn_funcs (s : Session) :
    (s.bindFn e).mem.funcs = s.mem.funcs.push (.builtin (.host e.2)) := rfl

theorem bindFn_offers (h : s.Sound) : (s.bindFn e).Offers s.mem.funcs.size e.1 e.2 := by
  refine ⟨s.mem.funcs.size, Nat.le_refl _, ?_, ?_⟩
  · exact bound_bind_self (s := { s with mem := (s.mem.newFunc (.builtin (.host e.2))).2 }) h e.1 _
  · rw [bindFn_funcs]
    exact Array.getElem?_push_size

theorem bound_bindFn_of_ne (h : s.Sound) (hkey : key ≠ .text e.1) :
    (s.bindFn e).bound key = s.bound key :=
  bound_bind_of_ne (s := { s with mem := (s.mem.newFunc (.builtin (.host e.2))).2 }) h _ hkey

/-- A name that is bound to another function of the host stays so. -/
theorem Offers.bindFn {n : Nat} (hoffers : s.Offers n name f) (h : s.Sound) (hname : name ≠ e.1) :
    (s.bindFn e).Offers n name f := by
  obtain ⟨id, hid, hbound, hfunc⟩ := hoffers
  refine ⟨id, hid, ?_, ?_⟩
  · rw [bound_bindFn_of_ne e h (mt Value.text_inj.mp hname), hbound]
  · obtain ⟨hlt, hget⟩ := Array.getElem?_eq_some_iff.mp hfunc
    rw [bindFn_funcs, Array.getElem?_push_lt hlt, hget]

end BindFn

section BindHost

variable {fns : List (String × HostFn)}

theorem bound_bindHost_of_ne (h : s.Sound) (hkey : ∀ e ∈ fns, key ≠ .text e.1) :
    (s.bindHost fns).bound key = s.bound key := by
  rw [bindHost_eq_foldl]
  induction fns generalizing s with
  | nil => rfl
  | cons e fns ih =>
    rw [List.forall_mem_cons] at hkey
    exact (ih (bindFn_sound e h) hkey.2).trans (bound_bindFn_of_ne e h hkey.1)

theorem Offers.bindHost {n : Nat} (hoffers : s.Offers n name f) (h : s.Sound)
    (hname : ∀ e ∈ fns, name ≠ e.1) : (s.bindHost fns).Offers n name f := by
  rw [bindHost_eq_foldl]
  induction fns generalizing s with
  | nil => exact hoffers
  | cons e fns ih =>
    rw [List.forall_mem_cons] at hname
    exact ih (hoffers.bindFn e h hname.1) (bindFn_sound e h) hname.2

/-- Functions that are bound under different names are there under these. -/
theorem bindHost_offers (h : s.Sound) (hnames : (fns.map (·.1)).Nodup) {e : String × HostFn}
    (he : e ∈ fns) : (s.bindHost fns).Offers s.mem.funcs.size e.1 e.2 := by
  induction fns generalizing s with
  | nil => cases he
  | cons a fns ih =>
    rw [List.map_cons, List.nodup_cons] at hnames
    have ha := bindFn_sound a h
    change Offers ((s.bindFn a).bindHost fns) _ _ _
    obtain rfl | he := List.mem_cons.mp he
    · refine (bindFn_offers e h).bindHost ha fun b hb heq => hnames.1 ?_
      rw [heq]
      exact List.mem_map_of_mem hb
    · refine (ih ha hnames.2 he).mono ?_
      rw [bindFn_funcs, Array.size_push]
      exact Nat.le_succ _

end BindHost

/-! ### What else changes -/

/-- Bindings were set and functions were added, and nothing else was done. -/
structure Rebinds (s s' : Session) : Prop where
  session : s' = { s with mem := s'.mem }
  memory : s'.mem = { s.mem with tables := s'.mem.tables, funcs := s'.mem.funcs }
  tables : ∀ id ≠ s.bindings, s'.mem.tables[id]? = s.mem.tables[id]?
  size : s.mem.funcs.size ≤ s'.mem.funcs.size
  funcs : ∀ id < s.mem.funcs.size, s'.mem.funcs[id]? = s.mem.funcs[id]?

namespace Rebinds

variable {s' s'' : Session}

theorem refl (s : Session) : s.Rebinds s :=
  ⟨rfl, rfl, fun _ _ => rfl, Nat.le_refl _, fun _ _ => rfl⟩

theorem trans (h : s.Rebinds s') (h' : s'.Rebinds s'') : s.Rebinds s'' where
  session := by rw [h'.session, h.session]
  memory := by rw [h'.memory, h.memory]
  tables id hid := by
    have hid' : id ≠ s'.bindings := by
      rw [h.session]
      exact hid
    rw [h'.tables id hid', h.tables id hid]
  size := Nat.le_trans h.size h'.size
  funcs id hid := by rw [h'.funcs id (Nat.lt_of_lt_of_le hid h.size), h.funcs id hid]

theorem bind (s : Session) (key value : Value) : s.Rebinds (s.bind key value) where
  session := rfl
  memory := rfl
  tables id hid := by
    simp only [Session.bind, Mem.rawSet, Array.getElem?_modify, if_neg hid.symm]
  size := Nat.le_refl _
  funcs _ _ := rfl

theorem bindFn (s : Session) (e : String × HostFn) : s.Rebinds (s.bindFn e) where
  session := rfl
  memory := rfl
  tables id hid := (bind { s with mem := (s.mem.newFunc (.builtin (.host e.2))).2 } _ _).tables id hid
  size := by
    rw [bindFn_funcs, Array.size_push]
    exact Nat.le_succ _
  funcs id hid := by
    rw [bindFn_funcs, Array.getElem?_push_lt hid, Array.getElem?_eq_getElem hid]

theorem bindHost (s : Session) (fns : List (String × HostFn)) : s.Rebinds (s.bindHost fns) := by
  rw [bindHost_eq_foldl]
  induction fns generalizing s with
  | nil => exact .refl s
  | cons e fns ih => exact (bindFn s e).trans (ih _)

/-- The context is not among what matters. -/
theorem withText (h : s.Rebinds s') (text : String) :
    Rebinds { s with text := text } { s' with text := text } where
  session := congrArg (fun t : Session => { t with text := text }) h.session
  memory := h.memory
  tables := h.tables
  size := h.size
  funcs := h.funcs

end Rebinds

/-! ### A context -/

theorem bindHost_append (s : Session) (fns fns' : List (String × HostFn)) :
    (s.bindHost fns).bindHost fns' = s.bindHost (fns ++ fns') := by
  rw [bindHost_eq_foldl, bindHost_eq_foldl, bindHost_eq_foldl, List.foldl_append]

/-- The session with the context alone. -/
def named (s : Session) (text : String) : Session :=
  { s with text := text }.bind (.text s.contextName) (.text text)

theorem setContext_eq (s : Session) (text : String) :
    s.setContext text = (s.named text).bindHost hostFns :=
  bindHost_append ..

theorem named_sound (h : s.Sound) (text : String) : (s.named text).Sound :=
  bind_sound (s := { s with text := text }) h s.contextName _

theorem setContext_sound (h : s.Sound) (text : String) : (s.setContext text).Sound := by
  rw [setContext_eq]
  exact bindHost_sound (named_sound h text) hostFns

theorem setContext_rebinds (s : Session) (text : String) :
    Rebinds { s with text := text } (s.setContext text) := by
  rw [setContext_eq]
  exact (Rebinds.bind { s with text := text } _ _).trans (.bindHost _ _)

/-- Every function of the host is there once a context was given. -/
theorem setContext_offers (h : s.Sound) (text : String) {e : String × HostFn} (he : e ∈ hostFns) :
    (s.setContext text).Offers s.mem.funcs.size e.1 e.2 := by
  rw [setContext_eq]
  exact bindHost_offers (named_sound h text) hostNames_nodup he

/-- The context is there, too, unless it has the name of one of them. -/
theorem bound_setContext_name (h : s.Sound) (text : String) (hname : s.contextName ∉ hostNames) :
    (s.setContext text).bound (.text s.contextName) = .text text := by
  rw [setContext_eq, bound_bindHost_of_ne (named_sound h text)]
  · exact bound_bind_self (s := { s with text := text }) h s.contextName _
  · intro e he heq
    rw [Value.text_inj] at heq
    exact hname (heq ▸ List.mem_map_of_mem he)

/-- Nothing else is bound. -/
theorem bound_setContext_of_ne (h : s.Sound) (text : String)
    (hkey : ∀ name ∈ s.contextName :: hostNames, key ≠ .text name) :
    (s.setContext text).bound key = s.bound key := by
  rw [List.forall_mem_cons] at hkey
  rw [setContext_eq, bound_bindHost_of_ne (named_sound h text)]
  · exact bound_bind_of_ne (s := { s with text := text }) h _ hkey.1
  · exact fun e he => hkey.2 e.1 (List.mem_map_of_mem he)

/-! ### A context after another -/

/-- The sessions are the same but for functions of the host under the same names, which are none of the
first `n` functions. -/
structure Alike (n : Nat) (s t : Session) : Prop where
  session : t = { s with mem := t.mem }
  memory : t.mem = { s.mem with tables := t.mem.tables, funcs := t.mem.funcs }
  tables : ∀ id ≠ s.bindings, t.mem.tables[id]? = s.mem.tables[id]?
  funcs : ∀ id < n, t.mem.funcs[id]? = s.mem.funcs[id]?
  bound : ∀ key, t.bound key = s.bound key ∨
    ∃ name f, key = .text name ∧ s.Offers n name f ∧ t.Offers n name f

/-- What was made of the same session by setting bindings differs in the bindings alone. -/
theorem Rebinds.alike {r t : Session} (hs : r.Rebinds s) (ht : r.Rebinds t)
    (hbound : ∀ key, t.bound key = s.bound key ∨ ∃ name f, key = .text name ∧
      s.Offers r.mem.funcs.size name f ∧ t.Offers r.mem.funcs.size name f) :
    Alike r.mem.funcs.size s t where
  session := ht.session.trans (congrArg (fun u : Session => { u with mem := t.mem }) hs.session).symm
  memory := ht.memory.trans (congrArg
    (fun m : Mem => { m with tables := t.mem.tables, funcs := t.mem.funcs }) hs.memory).symm
  tables id hid := by
    have hid' : id ≠ r.bindings := by
      rw [hs.session] at hid
      exact hid
    rw [ht.tables id hid', hs.tables id hid']
  funcs id hid := by rw [ht.funcs id hid, hs.funcs id hid]
  bound := hbound

/-- A context that was given before makes no difference. -/
theorem setContext_alike (h : s.Sound) (a b : String) :
    Alike s.mem.funcs.size (s.setContext b) ((s.setContext a).setContext b) := by
  have hsound := setContext_sound h a
  have hname := s.setContext_contextName a
  have hboth := ((s.setContext_rebinds a).withText b).trans ((s.setContext a).setContext_rebinds b)
  refine (s.setContext_rebinds b).alike hboth fun key => ?_
  by_cases hhost : ∃ e ∈ hostFns, key = .text e.1
  · obtain ⟨e, he, rfl⟩ := hhost
    refine .inr ⟨e.1, e.2, rfl, setContext_offers h b he, ?_⟩
    exact (setContext_offers hsound b he).mono (s.setContext_rebinds a).size
  · left
    by_cases hcontext : key = .text s.contextName
    · have hfree : s.contextName ∉ hostNames := by
        intro hmem
        obtain ⟨e, he, heq⟩ := List.mem_map.mp hmem
        exact hhost ⟨e, he, by rw [heq, hcontext]⟩
      subst hcontext
      rw [bound_setContext_name h b hfree, ← hname]
      exact bound_setContext_name hsound b (by rwa [hname])
    · have hkey : ∀ name ∈ s.contextName :: hostNames, key ≠ .text name := by
        rw [List.forall_mem_cons]
        refine ⟨hcontext, fun name hmem heq => ?_⟩
        obtain ⟨e, he, rfl⟩ := List.mem_map.mp hmem
        exact hhost ⟨e, he, heq⟩
      rw [bound_setContext_of_ne h b hkey, bound_setContext_of_ne hsound b (by rwa [hname]),
        bound_setContext_of_ne h a hkey]

/-! ### A context after everything was unbound -/

theorem clear_sound (h : s.Sound) : s.clear.Sound := by
  rw [Sound, clear_bindings]
  exact (Policy.lasting_sound s.bindings).clear s h

/-- What is bound by a context where everything was unbound. -/
theorem bound_renewed (h : s.Sound) (text : String) (key : Value) :
    ((s.clear.setContext text).bound key).isNil = false ↔
      ∃ name ∈ s.contextName :: hostNames, key = .text name := by
  have hsound := clear_sound h
  have hname := s.clear_contextName
  constructor
  · intro hbound
    by_cases hany : ∃ name ∈ s.contextName :: hostNames, key = .text name
    · exact hany
    · have hkey : ∀ name ∈ s.contextName :: hostNames, key ≠ .text name :=
        fun name hmem heq => hany ⟨name, hmem, heq⟩
      rw [bound_setContext_of_ne hsound text (by rwa [hname]), bound, rawGet_clear h] at hbound
      cases hbound
  · rintro ⟨name, hmem, rfl⟩
    by_cases hhost : name ∈ hostNames
    · obtain ⟨e, he, rfl⟩ := List.mem_map.mp hhost
      exact (setContext_offers hsound text he).isNil
    · obtain rfl := (List.mem_cons.mp hmem).resolve_right hhost
      rw [← hname] at hhost ⊢
      rw [bound_setContext_name hsound text hhost]
      rfl

/-! ### What programs and requests see -/

/-- A name that is bound to a value with a JSON form is found with this form. -/
theorem lookup_json {W : Type} (o : Outside (StateM W)) (fuel : Nat) {v : Value} {j : Json}
    (h : s.bound (.text name) = v) (hv : v.isNil = false) (hj : s.mem.json? v = some j) :
    s.lookup o fuel name = pure (.ok (⟨true, j⟩, s)) := by
  rw [bound] at h
  rw [lookup_bound o fuel (by rw [h]; exact hv), h, present, hj]

/-- A name that is bound to a text is found with this text. -/
theorem lookup_text {W : Type} (o : Outside (StateM W)) (fuel : Nat) {text : String}
    (h : s.bound (.text name) = .text text) :
    s.lookup o fuel name = pure (.ok (⟨true, .str text⟩, s)) :=
  lookup_json o fuel h rfl (Mem.json?_text _ text)

/-- As long as programs do not bind the name anew, they find a function under it, and where there is
room for a call of it the call enters this function of the host. -/
def Calls (s : Session) (name : String) (f : HostFn) : Prop :=
  ∃ id, ∀ (m : Mem) (x : Machine), m.rawGet s.bindings (.text name) = s.bound (.text name) →
    m.funcs[id]? = s.mem.funcs[id]? →
    (∀ origin label,
      Task.Looks x m (Task.index origin (.table s.bindings) (.text name) label) 0 (.func id)) ∧
    ∀ args site k, x.Room 1 → x.advance (.call (.func id) args site k m) =
      .step (Machine.enterBuiltin (.host f) args site m) (x.within m site k)

theorem Offers.calls {n : Nat} (h : s.Offers n name f) : s.Calls name f := by
  obtain ⟨id, -, hbound, hfunc⟩ := h
  refine ⟨id, fun m x hget hkept => ⟨fun origin label => ?_, fun args site k hx => ?_⟩⟩
  · rw [hbound] at hget
    rw [← hget]
    exact Task.index_looks (by rw [hget]; rfl) origin label x
  · exact Machine.advance_call hx (hkept.trans hfunc) args site k

end Session

end LuaSession
