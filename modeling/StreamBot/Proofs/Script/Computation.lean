import Mathlib.Data.Set.Insert
import StreamBot.Proofs.Dict
import StreamBot.Proofs.Script.Reading
import StreamBot.Script.Evaluation

/-! # Reasoning about computations

Some faults say that a statement cannot do what it should: it assigns to what is not there or defines what is
there already.  Others say that a variable cannot be read.  Operators, subscripts and the functions on lists have faults of
their own only.  What they make of well-formed values is well-formed, and of the type that the operands promise.  An expression
without a type can have a value too: the right operand of a logical operator may be ill-typed where the left one decides.  Such
a value is still well-formed, which is why `Fits` asks for the type only if there is one.

How a computation inside of an execution runs when it is put together from others (`Eval.bind_run`,
`Eval.lift_run`), and what it gives.  `Eval.Gives terms x Q` says: started in a well-formed frame, `x` returns only
results with the property `Q`, in a well-formed frame that differs in variables only.

The terms may ask for more: that reading a variable does not fail.  Then the variables that are known must have values of
their types at the start, and have such values at the end.
-/

namespace StreamBot.Script

open List Value Script.Expr

variable {type : Except TypeFault DataType} {v w : Value} {op : BinaryOp} {operand iterable body : Expr} {t : DataType}
variable {name : String} {item : DataType} {result : Except Fault Float} {α : Type}

/-! ### Faults -/

/-- A statement has found out itself that it cannot do what it should. -/
def Fault.ofStatement : Fault → Bool
  | .assignStoreMissing .. | .assignParameterMissing _ | .assignVariableMissing _ | .assignType ..
  | .alreadyDefined _ | .definitionType .. => true
  | _ => false

/-- A variable that is read has no value, or one of another type than its name had. -/
def Fault.ofVariable : Fault → Bool
  | .variableMissing _ | .readType .var .. => true
  | _ => false

/-- The result of an operation: something with a property, or a fault that is not one of a statement, nor of reading a
variable. -/
def Yields (Q : α → Prop) : Except Fault α → Prop
  | .ok a => Q a
  | .error fault => (fault.ofStatement || fault.ofVariable) = false

theorem Yields.imp {r : Except Fault α} {P Q : α → Prop} (h : Yields P r) (himp : ∀ a, P a → Q a) : Yields Q r := by
  cases r with
  | ok a => exact himp a h
  | error fault => exact h

theorem Yields.map {β : Type} {r : Except Fault α} {f : α → β} {Q : β → Prop} (h : Yields (fun a => Q (f a)) r) :
    Yields Q (r.map f) := by
  cases r <;> exact h

/-! ### Values -/

theorem Value.allWellFormed_iff {vs : List Value} :
    Value.AllWellFormed t vs ↔ ∀ v ∈ vs, v.WellFormed ∧ v.dataType = t := by
  induction vs with
  | nil => simp [Value.AllWellFormed]
  | cons v vs ih => simp [Value.AllWellFormed, ih, and_assoc, and_left_comm]

/-- A value as an expression of that type, if it has one, should have it. -/
def Fits (type : Except TypeFault DataType) (v : Value) : Prop :=
  v.WellFormed ∧ ∀ t, type = .ok t → v.dataType = t

theorem Fits.of_dataType (hv : v.WellFormed) (h : type = .ok v.dataType) : Fits type v :=
  ⟨hv, fun _ ht => Except.ok.inj (h.symm.trans ht)⟩

theorem fits_list {β : Type} {f : β → Value} {l : List β} (hf : ∀ b, (f b).WellFormed ∧ (f b).dataType = t) :
    Fits (.ok (.list t)) (.list t (l.map f)) := by
  refine .of_dataType (allWellFormed_iff.mpr fun v hv => ?_) rfl
  obtain ⟨b, -, rfl⟩ := mem_map.mp hv
  exact hf b

/-! ### Operators -/

theorem numberOfText_yields (s : String) : Yields (fun _ => True) (numberOfText s) := by
  unfold numberOfText
  extract_lets read
  have hread : ∀ t, Yields (fun _ => True) (read t) := by
    intro t
    unfold read
    split
    · trivial
    · rfl
  split
  · rfl
  · split
    · exact hread _
    · exact hread _
    · exact (hread _).map
    · rfl
  · rfl

theorem boolOfText_yields (s : String) : Yields (fun _ => True) (boolOfText s) := by
  unfold boolOfText
  split
  · trivial
  · split
    · trivial
    · rfl

theorem UnaryOp.apply_yields (op : UnaryOp) (v : Value) : Yields (Fits (op.resultType v.dataType)) (op.apply v) := by
  unfold UnaryOp.apply
  split
  case h_6 => exact ((numberOfText_yields _).imp fun _ _ => .of_dataType trivial rfl).map
  case h_12 => exact ((boolOfText_yields _).imp fun _ _ => .of_dataType trivial rfl).map
  case h_13 => rfl
  all_goals exact Fits.of_dataType trivial rfl

theorem calculate_yields {l r : Float} (h : calculate l op r = some result) :
    Yields (fun x => Fits (BinaryOp.resultType .number op .number) (.number x)) result := by
  unfold calculate at h
  split at h <;> cases h
  case h_4 | h_5 =>
    split
    · rfl
    · exact Fits.of_dataType trivial rfl
  all_goals exact Fits.of_dataType trivial rfl

theorem rangeList_yields (op : BinaryOp) (start stop : Float) :
    Yields (Fits (.ok (.list .number))) (rangeList op start stop) := by
  unfold rangeList
  split
  · rfl
  · rfl
  · exact fits_list fun _ => ⟨trivial, rfl⟩

theorem BinaryOp.apply_yields (l : Value) (op : BinaryOp) (r : Value) :
    Yields (fun w => l.WellFormed → r.WellFormed → Fits (BinaryOp.resultType l.dataType op r.dataType) w)
      (BinaryOp.apply l op r) := by
  unfold BinaryOp.apply
  split
  · split
    · exact fun _ _ => .of_dataType trivial rfl
    · exact fun _ _ => .of_dataType trivial rfl
    · rfl
  · split
    · next b hb =>
      refine fun _ _ => .of_dataType trivial ?_
      cases op <;> first | rfl | cases hb
    · next hresult => exact ((calculate_yields hresult).imp fun _ hfits _ _ => hfits).map
    · split
      · next hrange =>
        have htype : BinaryOp.resultType .number op .number = .ok (.list .number) := by
          cases op <;> first | rfl | cases hrange
        exact (rangeList_yields op _ _).imp fun _ hfits _ _ => htype ▸ hfits
      · rfl
  · split
    · next b hb =>
      refine fun _ _ => .of_dataType trivial ?_
      cases op <;> first | rfl | cases hb
    · split
      · next hadd => exact fun _ _ => .of_dataType trivial (hadd ▸ rfl)
      · rfl
  · split
    · next hadd =>
      split
      · next hab =>
        subst hadd hab
        intro hl hr
        refine .of_dataType (allWellFormed_iff.mpr fun v hv => ?_) (if_pos ⟨rfl, rfl⟩)
        exact (mem_append.mp hv).elim (allWellFormed_iff.mp hl v) (allWellFormed_iff.mp hr v)
      · rfl
    · rfl
  · rfl

/-! ### Parts of values -/

theorem Value.items?_fits {items : List Value} (h : v.items? = some items) (hv : Fits type v)
    (hitem : ∃ container, type = .ok container ∧ container.element? = some item) :
    ∀ w ∈ items, w.WellFormed ∧ w.dataType = item := by
  obtain ⟨container, htype, hitem⟩ := hitem
  obtain rfl := hv.2 container htype
  cases v with
  | number | bool => cases h
  | string s =>
    cases h
    cases hitem
    intro w hw
    obtain ⟨c, -, rfl⟩ := mem_map.mp hw
    exact ⟨trivial, rfl⟩
  | list element elements =>
    cases h
    cases hitem
    exact allWellFormed_iff.mp hv.1

theorem Value.at_yields (v index : Value) :
    Yields (fun w => v.WellFormed → w.WellFormed ∧ v.dataType.element? = some w.dataType) (v.at index) := by
  unfold Value.at
  split
  · split
    · rfl
    · split
      · exact fun _ => ⟨trivial, rfl⟩
      · rfl
  · next element elements x =>
    split
    · rfl
    · split
      · next w hw =>
        intro hv
        have hmem : w ∈ elements := by
          split at hw
          · cases hw
          · exact mem_of_getElem? hw
        exact (allWellFormed_iff.mp hv w hmem).imp_right fun htype => congrArg some htype.symm
      · rfl
  · rfl

theorem splitText_yields (s d : String) : Yields (Fits (.ok (.list .string))) (splitText s d) := by
  unfold splitText
  split
  · rfl
  · exact fits_list fun _ => ⟨trivial, rfl⟩

theorem textsOf_yields (vs : List Value) : Yields (fun _ => True) (textsOf vs) := by
  fun_induction textsOf vs with
  | case1 => trivial
  | case2 s rest ih =>
    generalize textsOf rest = r at ih ⊢
    cases r <;> exact ih
  | case3 v rest => rfl

theorem numbersInOrder_yields (left right : Value) : Yields (fun _ => True) (numbersInOrder left right) := by
  unfold numbersInOrder
  split
  · trivial
  · rfl

/-! ### Static types of operators -/

theorem unary_dataType {op : UnaryOp} (h : (unary op operand).dataType = .ok t) :
    ∃ u, operand.dataType = .ok u ∧ op.resultType u = .ok t := by
  exact exists_of_bind_eq_ok h

theorem binary_dataType {left right : Expr} (h : (binary left op right).dataType = .ok t) :
    ∃ l r, left.dataType = .ok l ∧ right.dataType = .ok r ∧ BinaryOp.resultType l op r = .ok t := by
  obtain ⟨l, hl, h⟩ := exists_of_bind_eq_ok h
  obtain ⟨r, hr, h⟩ := exists_of_bind_eq_ok h
  exact ⟨l, r, hl, hr, h⟩

theorem comprehension_dataType {condition : Option Expr}
    (h : (Expr.comprehension iterable name condition body).dataType = .ok t) : ∃ u, body.dataType = .ok u ∧ t = .list u := by
  obtain ⟨u, hu, h⟩ := exists_of_bind_eq_ok h
  exact ⟨u, hu, (Except.ok.inj h).symm⟩

theorem resultType_logical {l r : DataType} (hop : op.isLogical) (h : BinaryOp.resultType l op r = .ok t) : t = .bool := by
  cases op with
  | and | or => cases l <;> cases r <;> cases h; rfl
  | _ => cases hop

end StreamBot.Script

namespace StreamBot

open List

variable {type : DataType}

section Computations

variable {ε σ α β : Type} {x : ExceptT ε (StateM σ) α} {s t : σ}

theorem run_bind_of_ok {a : α} (h : x s = (.ok a, t)) (k : α → ExceptT ε (StateM σ) β) : (x >>= k) s = k a t := by
  simp only [bind, ExceptT.bind, ExceptT.mk, StateT.bind, h]
  rfl

theorem run_bind_of_error {e : ε} (h : x s = (.error e, t)) (k : α → ExceptT ε (StateM σ) β) :
    (x >>= k) s = (.error e, t) := by
  simp only [bind, ExceptT.bind, ExceptT.mk, StateT.bind, h]
  rfl

theorem run_get_bind (k : σ → ExceptT ε (StateM σ) β) (s : σ) : (get >>= k) s = k s s := rfl

theorem run_set_bind (t : σ) (k : PUnit → ExceptT ε (StateM σ) β) (s : σ) : (set t >>= k) s = k ⟨⟩ t := rfl

theorem run_modify_bind (f : σ → σ) (k : PUnit → ExceptT ε (StateM σ) β) (s : σ) : (modify f >>= k) s = k ⟨⟩ (f s) := rfl

theorem run_bind (x : ExceptT ε (StateM σ) α) (k : α → ExceptT ε (StateM σ) β) (s : σ) :
    (∃ a t, x s = (.ok a, t) ∧ (x >>= k) s = k a t) ∨ ∃ e t, x s = (.error e, t) ∧ (x >>= k) s = (.error e, t) := by
  rcases hrun : x s with ⟨e | a, t⟩
  · exact .inr ⟨e, t, rfl, run_bind_of_error hrun k⟩
  · exact .inl ⟨a, t, rfl, run_bind_of_ok hrun k⟩

theorem run_ok_of_bind {k : α → ExceptT ε (StateM σ) β} {u : σ} {b : β} (h : (x >>= k) s = (.ok b, u)) :
    ∃ a t, x s = (.ok a, t) ∧ k a t = (.ok b, u) := by
  obtain ⟨a, t, hrun, hbind⟩ | ⟨e, t, hrun, hbind⟩ := run_bind x k s
  · exact ⟨a, t, hrun, hbind ▸ h⟩
  · rw [hbind] at h
    cases h

theorem run_tryCatch (x : ExceptT ε (StateM σ) α) (handle : ε → ExceptT ε (StateM σ) α) (s : σ) :
    (∃ a t, x s = (.ok a, t) ∧ tryCatch x handle s = (.ok a, t)) ∨
      ∃ e t, x s = (.error e, t) ∧ tryCatch x handle s = handle e t := by
  rcases hrun : x s with ⟨e | a, t⟩
  · refine .inr ⟨e, t, rfl, ?_⟩
    simp only [tryCatch, tryCatchThe, MonadExceptOf.tryCatch, ExceptT.tryCatch, ExceptT.mk, bind, StateT.bind, hrun]
  · refine .inl ⟨a, t, rfl, ?_⟩
    simp only [tryCatch, tryCatchThe, MonadExceptOf.tryCatch, ExceptT.tryCatch, ExceptT.mk, bind, StateT.bind, hrun]
    rfl

class Chained (R : σ → σ → Prop) : Prop where
  refl : ∀ s, R s s
  trans : ∀ {s t u}, R s t → R t u → R s u

/-- A computation leads from every state to a related one, whether it returns or fails. -/
def Along (R : σ → σ → Prop) (x : ExceptT ε (StateM σ) α) : Prop := ∀ s, R s (x s).2

namespace Along

variable {R : σ → σ → Prop} [Chained R] {l : List β}

theorem pure (a : α) : Along R (Pure.pure a : ExceptT ε (StateM σ) α) := Chained.refl

theorem get : Along R (MonadState.get : ExceptT ε (StateM σ) σ) := Chained.refl

theorem bind {k : α → ExceptT ε (StateM σ) β} (hx : Along R x) (hk : ∀ a, Along R (k a)) : Along R (x >>= k) := by
  intro s
  have hfirst := hx s
  obtain ⟨a, t, hrun, hbind⟩ | ⟨e, t, hrun, hbind⟩ := run_bind x k s
  · rw [hrun] at hfirst
    rw [hbind]
    exact Chained.trans hfirst (hk a t)
  · rw [hrun] at hfirst
    rw [hbind]
    exact hfirst

theorem tryCatch {handle : ε → ExceptT ε (StateM σ) α} (hx : Along R x) (hhandle : ∀ e, Along R (handle e)) :
    Along R (MonadExcept.tryCatch x handle) := by
  intro s
  have hfirst := hx s
  obtain ⟨a, t, hrun, htry⟩ | ⟨e, t, hrun, htry⟩ := run_tryCatch x handle s
  · rw [hrun] at hfirst
    rw [htry]
    exact hfirst
  · rw [hrun] at hfirst
    rw [htry]
    exact Chained.trans hfirst (hhandle e t)

theorem forM {body : β → ExceptT ε (StateM σ) PUnit} (hbody : ∀ b, Along R (body b)) : Along R (l.forM body) := by
  induction l with
  | nil => exact pure _
  | cons b l ih => exact (hbody b).bind fun _ => ih

theorem foldlM {body : α → β → ExceptT ε (StateM σ) α} (hbody : ∀ a b, Along R (body a b)) (a : α) :
    Along R (l.foldlM body a) := by
  induction l generalizing a with
  | nil => exact pure _
  | cons b l ih => exact (hbody a b).bind ih

theorem forIn {b : α} {body : β → α → ExceptT ε (StateM σ) (ForInStep α)} (hbody : ∀ a b, Along R (body a b)) :
    Along R (ForIn.forIn l b body) := by
  induction l generalizing b with
  | nil => exact pure b
  | cons a l ih =>
    rw [List.forIn_cons]
    refine (hbody a b).bind fun step => ?_
    cases step with
    | done b => exact pure b
    | yield b => exact ih

end Along

end Computations

namespace Script

variable {f g : Frame} {v : Value} {fault : Fault}
variable {σ α β : Type} {x : Eval σ α} {k : α → Eval σ β} {terms : Terms} {name : String} {a : α}

/-! ### Well-formed frames -/

structure Frame.WellFormed (f : Frame) : Prop where
  stores : ∀ p ∈ f.stores, p.2.WellFormed
  parameters : ∀ p ∈ f.parameters, p.2.WellFormed
  bindings : ∀ p ∈ f.bindings, p.2.WellFormed

/-- `g` differs from `f` in its variables only. -/
structure Frame.Extends (g f : Frame) : Prop where
  callStack : g.callStack = f.callStack
  stores : g.stores = f.stores
  parameters : g.parameters = f.parameters

theorem Frame.Extends.refl (f : Frame) : f.Extends f := ⟨rfl, rfl, rfl⟩

theorem Frame.Extends.trans {k : Frame} (hk : k.Extends g) (hg : g.Extends f) : k.Extends f :=
  ⟨hk.callStack.trans hg.callStack, hk.stores.trans hg.stores, hk.parameters.trans hg.parameters⟩

theorem wellFormed_of_mem_set {κ : Type} [BEq κ] [LawfulBEq κ] {d : Dict κ Value} {k : κ} (hd : ∀ p ∈ d, p.2.WellFormed)
    (hv : v.WellFormed) : ∀ p ∈ Dict.set d k v, p.2.WellFormed := by
  intro p hp
  rcases Dict.mem_set hp with hp | rfl
  · exact hd p hp
  · exact hv

theorem Frame.WellFormed.setBinding (hf : f.WellFormed) (name : String) (hv : v.WellFormed)
    : ({ f with bindings := Dict.set f.bindings name v } : Frame).WellFormed :=
  ⟨hf.stores, hf.parameters, wellFormed_of_mem_set hf.bindings hv⟩

/-! ### What computations give -/

theorem Act.bind_run (x : Act σ α) (k : α → Act σ β) (s : σ) : (x >>= k) s = match x s with
      | (.ok a, s') => k a s'
      | (.error fault, s') => (.error fault, s') := by
  simp only [bind, ExceptT.bind, ExceptT.mk, StateT.bind]
  rcases x s with ⟨_ | _, _⟩ <;> rfl

theorem Eval.get_run (k : Frame → Eval σ β) (f : Frame) (s : σ) : (get >>= k) f s = k f f s := rfl

/-- One computation after another: the second starts where the first one ended. -/
theorem Eval.bind_run (x : Eval σ α) (k : α → Eval σ β) (f : Frame) (s : σ) : (x >>= k) f s = match x f s with
      | (.ok (a, f'), s') => k a f' s'
      | (.error fault, s') => (.error fault, s') := by
  simp only [bind, StateT.bind, ExceptT.bind, ExceptT.mk]
  rcases x f s with ⟨_ | _, _⟩ <;> rfl

theorem Eval.ok_of_bind {s t : σ} {b : β} (h : (x >>= k) f s = (.ok (b, g), t)) :
    ∃ a f' s', x f s = (.ok (a, f'), s') ∧ k a f' s' = (.ok (b, g), t) := by
  rw [Eval.bind_run] at h
  rcases hx : x f s with ⟨fault | ⟨a, f'⟩, s'⟩
  · rw [hx] at h
    cases h
  · rw [hx] at h
    exact ⟨a, f', s', rfl, h⟩

theorem Eval.bind_of_ok {f' : Frame} {s s' : σ} (h : x f s = (.ok (a, f'), s')) (k : α → Eval σ β)
    : (x >>= k) f s = k a f' s' := by
  rw [Eval.bind_run, h]

theorem Eval.error_of_bind {s t : σ} (h : (x >>= k) f s = (.error fault, t)) :
    x f s = (.error fault, t) ∨ ∃ a f' s', x f s = (.ok (a, f'), s') ∧ k a f' s' = (.error fault, t) := by
  rw [Eval.bind_run] at h
  rcases hx : x f s with ⟨fault | ⟨a, f'⟩, s'⟩
  · rw [hx] at h
    cases h
    exact .inl rfl
  · rw [hx] at h
    exact .inr ⟨a, f', s', rfl, h⟩

theorem Eval.lift_run (x : Act σ α) (f : Frame) (s : σ) : (liftM x : Eval σ α) f s = match x s with
      | (.ok a, s') => (.ok (a, f), s')
      | (.error fault, s') => (.error fault, s') := by
  simp only [liftM, monadLift, MonadLift.monadLift, StateT.lift, bind, ExceptT.bind, ExceptT.mk, StateT.bind]
  rcases x s with ⟨_ | _, _⟩ <;> rfl

theorem Eval.ok_of_lift {x : Act σ α} {s t : σ} (h : (liftM x : Eval σ α) f s = (.ok (a, g), t))
    : g = f ∧ x s = (.ok a, t) := by
  rw [Eval.lift_run] at h
  rcases hx : x s with ⟨fault | b, s'⟩
  · rw [hx] at h
    cases h
  · rw [hx] at h
    cases h
    exact ⟨rfl, rfl⟩

/-- What a host is asked to do does not fail in this way. -/
structure Host.Avoids (fault : Fault) (h : Host σ) : Prop where
  call : ∀ name arguments s t, h.call name arguments s ≠ (.error fault, t)
  evaluate : ∀ code s t, h.evaluate code s ≠ (.error fault, t)
  pause : ∀ s t, h.pause s ≠ (.error fault, t)

/-- Failures of reading variables that must not happen, and the variables that are known. -/
structure Terms where
  known : Set (String × DataType)
  avoided : Set Fault
  ofVariable : ∀ fault ∈ avoided, fault.ofVariable

/-- All values are well-formed and, if some failures must not happen, known variables have values of their types. -/
structure Frame.Meets (terms : Terms) (f : Frame) : Prop extends f.WellFormed where
  holds : terms.avoided.Nonempty → ∀ x ∈ terms.known, ∃ v, Dict.get? f.bindings x.1 = some v ∧ v.dataType = x.2

/-- How a run ends: with a result and in a frame as it should, or in a failure that is not avoided. -/
def Ends (avoided : Set Fault) (R : α → Frame → Prop) : Except Fault (α × Frame) × σ → Prop
  | (.ok (a, g), _) => R a g
  | (.error fault, _) => fault ∉ avoided

section Ends

variable {avoided : Set Fault} {R : α → Frame → Prop}

theorem Ends.imp {r : Except Fault (α × Frame) × σ} (h : Ends avoided R r) {R' : α → Frame → Prop}
    (himp : ∀ a g, R a g → R' a g) : Ends avoided R' r := by
  rcases r with ⟨fault | ⟨a, g⟩, t⟩
  · exact h
  · exact himp a g h

theorem Ends.bind {x : Eval σ α} {k : α → Eval σ β} {s : σ} {R' : β → Frame → Prop} (h : Ends avoided R (x f s))
    (hk : ∀ a g t, R a g → Ends avoided R' (k a g t)) : Ends avoided R' ((x >>= k) f s) := by
  rw [Eval.bind_run]
  generalize x f s = r at h ⊢
  rcases r with ⟨fault | ⟨a, g⟩, t⟩
  · exact h
  · exact hk a g t h

end Ends

/-- Started in a frame that meets the terms, a computation returns only results with a property, in a frame that meets them
and differs in variables only, and fails only as it may. -/
def Eval.Gives (terms : Terms) (x : Eval σ α) (Q : α → Prop) : Prop :=
  ∀ (f : Frame) (s : σ), f.Meets terms → Ends terms.avoided (fun a g => Q a ∧ g.Meets terms ∧ g.Extends f) (x f s)

namespace Terms

def bind (terms : Terms) (name : String) (type : DataType) : Terms :=
  { terms with known := insert (name, type) terms.known }

/-- A variable that is known, if at all, with this type only. -/
def Admits (terms : Terms) (name : String) (type : DataType) : Prop :=
  terms.avoided.Nonempty → ∀ t, (name, t) ∈ terms.known → t = type

variable {terms : Terms} {name other : String} {type t : DataType}

theorem bind_self : (terms.bind name type).bind name type = terms.bind name type := by
  simp [bind]

theorem Admits.bind (h : terms.Admits name type) (hsame : terms.avoided.Nonempty → name = other → type = t) :
    (terms.bind other t).Admits name type := by
  rintro hstrict u (heq | hmem)
  · obtain ⟨rfl, rfl⟩ := Prod.mk.inj heq
    exact (hsame hstrict rfl).symm
  · exact h hstrict u hmem

theorem not_mem (terms : Terms) (h : fault.ofVariable = false) : fault ∉ terms.avoided := by
  intro hmem
  rw [terms.ofVariable fault hmem] at h
  cases h

end Terms

theorem Frame.Meets.set (hf : f.Meets terms) (hv : v.WellFormed ∧ v.dataType = type) (hname : terms.Admits name type) :
    Frame.Meets (terms.bind name type) { f with bindings := Dict.set f.bindings name v } := by
  refine ⟨hf.setBinding name hv.1, fun hstrict y hy => ?_⟩
  by_cases hsame : y.1 = name
  · refine ⟨v, by rw [hsame, Dict.get?_set_self], hv.2.trans ?_⟩
    rcases hy with rfl | hy
    · rfl
    · exact (hname hstrict y.2 (by rwa [← hsame])).symm
  · obtain ⟨w, hw, htype⟩ := hf.holds hstrict y (hy.resolve_left fun heq => hsame (congrArg Prod.fst heq))
    exact ⟨w, by rwa [Dict.get?_set_of_ne _ _ hsame], htype⟩

theorem Frame.Meets.unbind (hf : f.Meets (terms.bind name type)) : f.Meets terms :=
  ⟨hf.toWellFormed, fun hstrict y hy => hf.holds hstrict y (.inr hy)⟩

namespace Eval.Gives

variable {terms : Terms} {x : Eval σ α} {k : α → Eval σ β} {P : α → Prop} {Q : β → Prop} {name : String} {type : DataType}

theorem pure {a : α} {Q : α → Prop} (h : Q a) : Gives terms (Pure.pure a : Eval σ α) Q :=
  fun f _ hf => ⟨h, hf, .refl f⟩

theorem throw {Q : α → Prop} (h : fault.ofVariable = false) : Gives terms (MonadExcept.throw fault : Eval σ α) Q :=
  fun _ _ _ => terms.not_mem h

theorem bind (hx : x.Gives terms P) (hk : ∀ a, P a → (k a).Gives terms Q) : (x >>= k).Gives terms Q := by
  intro f s hf
  refine (hx f s hf).bind fun a f' t hfirst => ?_
  obtain ⟨ha, hf', hkeep⟩ := hfirst
  exact (hk a ha f' t hf').imp fun b g hsecond => ⟨hsecond.1, hsecond.2.1, hsecond.2.2.trans hkeep⟩

theorem mono {Q : α → Prop} (hx : x.Gives terms P) (h : ∀ a, P a → Q a) : x.Gives terms Q :=
  fun f s hf => (hx f s hf).imp fun a _ => And.imp_left (h a)

theorem same {a b : α} [DecidableEq α] {k : Unit → Eval σ β} (hfault : fault.ofVariable = false)
    (hk : a = b → (k ()).Gives terms Q) : Gives terms (if a ≠ b then MonadExcept.throw fault >>= k else k ()) Q := by
  by_cases h : a = b
  · rw [if_neg (not_not_intro h)]
    exact hk h
  · rw [if_pos h]
    exact bind (P := fun _ => False) (throw hfault) fun _ h => h.elim

theorem withFrame {k : Frame → Eval σ β} (hk : ∀ f, f.Meets terms → (k f).Gives terms Q) : Gives terms (get >>= k) Q :=
  fun f s hf => hk f hf f s hf

/-- A computation on behalf of another script: afterwards the call stack is what it was. -/
theorem onBehalf (script : String) (hx : x.Gives terms P) :
    Gives terms (do Eval.enter script; let a ← x; Eval.leave; return a) P := by
  intro f s hf
  -- `x` extends the frame with the longer call stack; leaving takes the name off again
  let inner : Frame := { f with callStack := script :: f.callStack }
  have hinside := hx inner s ⟨⟨hf.stores, hf.parameters, hf.bindings⟩, hf.holds⟩
  refine hinside.bind (k := fun a => Eval.leave >>= fun _ => Pure.pure a) fun a f' t hends => ?_
  obtain ⟨ha, hf', hkeep⟩ := hends
  exact ⟨ha, ⟨⟨hf'.stores, hf'.parameters, hf'.bindings⟩, hf'.holds⟩, congrArg List.tail hkeep.callStack, hkeep.stores,
    hkeep.parameters⟩

theorem lift (x : Act σ α) (h : ∀ fault ∈ terms.avoided, ∀ s t, x s ≠ (.error fault, t)) :
    Gives terms (liftM x : Eval σ α) fun _ => True := by
  intro f s hf
  rw [Eval.lift_run]
  rcases hx : x s with ⟨fault | a, t⟩
  · exact fun hmem => h fault hmem s t hx
  · exact ⟨trivial, hf, .refl f⟩

theorem setVariable {Q : α → Prop} (hv : v.WellFormed ∧ v.dataType = type)
    (hname : terms.Admits name type) (hx : x.Gives (terms.bind name type) Q) :
    Gives terms (Eval.setVariable name v >>= fun _ => x) Q := by
  intro f s hf
  refine (hx _ s (hf.set hv hname)).imp fun a g hg => ?_
  obtain ⟨ha, hmeets, hkeep⟩ := hg
  exact ⟨ha, hmeets.unbind, hkeep.callStack, hkeep.stores, hkeep.parameters⟩

theorem typeOf (type : Except TypeFault DataType) :
    Gives terms (Eval.typeOf type : Eval σ DataType) fun t => type = .ok t := by
  cases type with
  | ok t => exact .pure rfl
  | error fault => exact .throw rfl

end Eval.Gives

end Script

end StreamBot
