import LuaSession.Proofs.Lua.Policy.Strings

/-!
# The functions of the host and policies

* `HostFn.run_obeys`: a function of the host keeps to a stable policy that allows what it may ask.
* `Builtin.run_obeys`: so does every built-in function.
-/

namespace LuaSession.Lua

open LuaSession.Lua.Task

variable {α : Type} {p : Policy}

/-! ### Functions of the host -/

namespace Policy.Stable

/-! Making a JSON value into a value of programs only adds tables. -/

mutual

theorem ofJson (hp : p.Stable) {m : Mem} (hm : p.keeps m) (j : Json) : p.keeps (m.ofJson j).2 := by
  cases j with
  | null | bool | int | float | str => simpa only [Mem.ofJson] using hm
  | arr items =>
    have h := ofJsonItems hp hm items
    simp only [Mem.ofJson]
    exact hp.newTable _ _ (Table.textsOnce_row ..) h
  | obj fields =>
    have h := ofJsonFields hp hm fields
    simp only [Mem.ofJson]
    exact hp.newTable _ _ (Table.textsOnce_ofFields _) h

theorem ofJsonItems (hp : p.Stable) {m : Mem} (hm : p.keeps m) (items : List Json) :
    p.keeps (m.ofJsonItems items).2 := by
  cases items with
  | nil => simpa only [Mem.ofJsonItems] using hm
  | cons j items =>
    have h := ofJsonItems hp (ofJson hp hm j) items
    simpa only [Mem.ofJsonItems] using h

theorem ofJsonFields (hp : p.Stable) {m : Mem} (hm : p.keeps m) (fields : List (String × Json)) :
    p.keeps (m.ofJsonFields fields).2 := by
  cases fields with
  | nil => simpa only [Mem.ofJsonFields] using hm
  | cons f fields =>
    have h := ofJsonFields hp (ofJson hp hm f.2) fields
    simpa only [Mem.ofJsonFields] using h

end

end Policy.Stable

namespace HostFn

@[grind ←]
theorem causeOf_obeys (e : Value) : (causeOf e).Obeys p := by
  unfold causeOf
  grind

section Stable

variable (hp : p.Stable)

include hp

@[grind ←]
theorem failConversion_obeys (c : Call) (n : Nat) (wanted note : String) :
    (failConversion c n wanted note : Task α).Obeys p :=
  .raiseHost hp _

@[grind ←]
theorem byteString_obeys (c : Call) (n : Nat) : (byteString c n).Obeys p := by
  unfold byteString
  grind

@[grind ←]
theorem looseText_obeys (c : Call) (n : Nat) : (looseText c n).Obeys p := by
  unfold looseText
  grind

@[grind ←]
theorem strictText_obeys (c : Call) (n : Nat) : (strictText c n).Obeys p := by
  unfold strictText
  grind

@[grind ←]
theorem integer_obeys (c : Call) (n : Nat) : (integer c n).Obeys p := by
  unfold integer
  grind

@[grind ←]
theorem integerOr_obeys (c : Call) (n : Nat) (default : Int) :
    (integerOr c n default).Obeys p := by
  unfold integerOr
  grind

@[grind ←]
theorem countOr_obeys (c : Call) (n default : Nat) : (countOr c n default).Obeys p := by
  unfold countOr
  grind

@[grind ←]
theorem table_obeys (c : Call) (n : Nat) : (table c n).Obeys p := by
  unfold table
  grind

@[grind ←]
theorem looseTexts_obeys (c : Call) (n : Nat) : (looseTexts c n).Obeys p := by
  unfold looseTexts
  grind

@[grind ←]
theorem refuse_obeys (message : String) : (refuse message : Task α).Obeys p :=
  .raiseHost hp _

@[grind ←]
theorem searched_obeys (r : Except Pattern.Refusal α) : (searched r).Obeys p := by
  unfold searched
  grind

@[grind ←]
theorem ofRecord_obeys (fields : List (String × Value)) : (ofRecord fields).Obeys p :=
  .newTable hp (Table.textsOnce_ofFields _)

@[grind ←]
theorem ofRecords_obeys (records : List (List (String × Value))) :
    (ofRecords records).Obeys p := by
  unfold ofRecords
  grind

@[grind ←]
theorem guarded_obeys {part : Task (List Value)} (h : part.Obeys p) : (guarded part).Obeys p := by
  unfold guarded
  grind

@[grind ←]
theorem writeAll_obeys {channel : Channel} (h : ∀ s, p.allows (.write channel s)) (n : Nat)
    (vs : List Value) : (writeAll channel n vs).Obeys p := by
  induction vs generalizing n with
  | nil => exact .pure _
  | cons v vs ih =>
    unfold writeAll
    split
    · exact .bind (.ask (h _)) fun _ => ih _
    · exact refuse_obeys hp _

@[grind ←]
theorem lineOf_obeys (first : Bool) (vs : List Value) : (lineOf first vs).Obeys p := by
  induction vs generalizing first with
  | nil => exact .pure _
  | cons v vs ih =>
    unfold lineOf
    grind

theorem search_obeys {context : Task (List Char)} (hcontext : context.Obeys p) (u : Utility)
    (c : Call) : (search context u c).Obeys p := by
  have hgiven (n : Nat) : (textOr context c n).Obeys p := by
    unfold textOr
    exact .ite hcontext (.bind (looseText_obeys hp _ _) fun _ => .pure _)
  have hjson (j : Json) : (change fun m => m.ofJson j).Obeys p :=
    .change fun m hm => hp.ofJson hm j
  cases u <;> unfold search <;> dsimp only
  case extractJson =>
    refine .bind (hgiven 1) fun text => ?_
    split
    · exact .bind (hjson _) fun _ => .pure _
    · exact .pure _
  all_goals grind

theorem askHost_obeys {method : String} {params : Json} (h : p.allows (.ask method params)) :
    (askHost method params).Obeys p := by
  unfold askHost
  refine .bind (.ask h) fun reply => ?_
  split
  · exact .pure _
  · exact .raiseHost hp _

theorem consult_obeys {f : Callback} (hlog : ∀ e, p.allows (.log e))
    (hask : ∀ method params, f.MaySend method params → p.allows (.ask method params)) (c : Call) :
    (consult f c).Obeys p := by
  have hnote (e : Log.Event) : (ask (.log e)).Obeys p := .ask (hlog e)
  cases f <;> unfold consult <;> dsimp only
  case llmQuery =>
    refine .bind (looseText_obeys hp _ _) fun prompt => .bind (hnote _) fun _ => .bind ?_ fun _ => .pure _
    exact askHost_obeys hp (hask _ _ ⟨rfl, prompt, rfl⟩)
  case rlmQuery =>
    refine .bind (looseText_obeys hp _ _) fun task => ?_
    simp only [pure_bind]
    refine .ite ?_ (.bind (looseText_obeys hp _ _) fun context => ?_)
    · exact .bind (hnote _) fun _ =>
        .bind (askHost_obeys hp (hask _ _ ⟨rfl, .inl ⟨task, rfl⟩⟩)) fun _ => .pure _
    · exact .bind (hnote _) fun _ =>
        .bind (askHost_obeys hp (hask _ _ ⟨rfl, .inr ⟨task, context, rfl⟩⟩)) fun _ => .pure _
  case batchLlmQuery =>
    refine .bind (looseTexts_obeys hp _ _) fun prompts => .bind (hnote _) fun _ =>
      .bind (askHost_obeys hp (hask _ _ ⟨rfl, prompts, rfl⟩)) fun reply => ?_
    exact .guard (hnote _) fun _ => .bind (.newTable hp (Table.textsOnce_ofList _)) fun _ => .pure _

theorem run_obeys {f : HostFn} (h : ∀ r, f.MayAsk r → p.allows r) (c : Call) :
    (f.run c).Obeys p := by
  cases f <;> unfold run <;> dsimp only
  case utility u => exact search_obeys hp (.bind (.ask (h .context trivial)) fun _ => .pure _) u c
  case callback f => exact consult_obeys hp (fun _ => h _ trivial) (fun _ _ hs => h _ hs) c
  case print => exact .bind (lineOf_obeys hp _ _) fun _ => .bind (.ask (h _ rfl)) fun _ => .pure _
  case log =>
    exact .bind (looseText_obeys hp _ _) fun _ => .bind (looseText_obeys hp _ _) fun _ =>
      .bind (.ask (h _ trivial)) fun _ => .pure _
  case ioWrite => exact .bind (writeAll_obeys hp (fun _ => h _ rfl) _ _) fun _ => .pure _
  case streamWrite channel =>
    exact .bind (table_obeys hp _ _) fun _ =>
      .bind (writeAll_obeys hp (fun _ => h _ rfl) _ _) fun _ => .pure _
  all_goals grind

end Stable

end HostFn

/-! ### All functions -/

/-- A built-in function keeps to a stable policy that allows what it may ask. -/
theorem Builtin.run_obeys (hp : p.Stable) {b : Builtin} (h : ∀ r, b.MayAsk r → p.allows r)
    (c : Call) : (b.run c).Obeys p := by
  cases b with
  | basic f => exact BasicFn.run_obeys hp h c
  | string f => exact StringFn.run_obeys hp f c
  | table f => exact TableFn.run_obeys hp f c
  | math f => exact MathFn.run_obeys hp h c
  | utf8 f => exact Utf8Fn.run_obeys hp f c
  | os f => exact OsFn.run_obeys hp h c
  | io f => exact IoFn.run_obeys hp h c
  | coroutine f => exact CoroutineFn.run_obeys hp f c
  | host f => exact HostFn.run_obeys hp h c
  | matches_ text pattern cell => exact StringFn.nextMatch_obeys hp c _ cell

end LuaSession.Lua
