import StreamBot.Proofs.Script.Accepted
import StreamBot.Proofs.Script.Computation

/-! # Relations that expressions keep

Expressions put computations together in a few ways only: one after the other, loops, sorting, built-in
functions.  They read stores, parameters and variables, set the variables of loops and ask the host, and they
fail with faults of their own.  A relation between the computations on two hosts that is kept by all of this
is a `Congruence`.  There is one rule for each way in which computations are put together and one for each kind of
expression.

Relations may depend on what is known of the variables, and they may say something about the results; a `Discipline` says
what has to be known for the variables to be read and set, and whether there is something to say about results.  Where there
is not, an expression needs to know the variables that it reads without having introduced them (`Expr.freeVariables`), it sets
the variables of the loops in it and no others (`Expr.loopVariables`), and its values are related by every congruence
(`Congruence.eval`).
-/

namespace StreamBot.Script

open List Expr Script

variable {σ τ : Type}
variable {x : Eval σ Value} {y : Eval τ Value} {type : DataType}

/-! ### The variables of an expression -/

/-- The variables that an expression reads and that no loop in it around the reading introduces. -/
def Expr.freeVariables (e : Expr) : Set String :=
  {name | ∃ bindings type, (var name type).OccursUnder bindings e ∧ name ∉ bindings.map Prod.fst}

def Expr.loopVariables (e : Expr) : Set String :=
  {name | ∃ d : Expr, d.Occurs e ∧ name ∈ d.binders.map Prod.fst}

def Expr.storeNames (e : Expr) : Set String := {name | ∃ type, (store name type).Occurs e}

/-- An expression reads known variables and readable stores only, and sets writable variables only. -/
structure Expr.Within (known readable writable : Set String) (e : Expr) : Prop where
  reads : e.freeVariables ⊆ known
  stores : e.storeNames ⊆ readable
  sets : e.loopVariables ⊆ writable

namespace Expr.Within

variable {known readable writable : Set String} {e part : Expr}

theorem head (h : e.Within known readable writable) (hp : part ∈ e.heads) : part.Within known readable writable where
  reads := by
    rintro name ⟨bindings, type, ho, hname⟩
    exact h.reads ⟨bindings, type, .ahead hp ho, hname⟩
  stores := by
    rintro name ⟨type, ho⟩
    exact h.stores ⟨type, .inside (mem_children.mpr (.inl hp)) ho⟩
  sets := by
    rintro name ⟨d, hd, hname⟩
    exact h.sets ⟨d, .inside (mem_children.mpr (.inl hp)) hd, hname⟩

theorem body (h : e.Within known readable writable) (hp : part ∈ e.bodies) {inner : Set String}
    (hknown : known ⊆ inner) (hbound : ∀ v ∈ e.binders, v.1 ∈ inner) : part.Within inner readable writable where
  reads := by
    rintro name ⟨bindings, type, ho, hname⟩
    by_cases hbinder : name ∈ e.binders.map Prod.fst
    · obtain ⟨v, hv, rfl⟩ := mem_map.mp hbinder
      exact hbound v hv
    · refine hknown (h.reads ⟨e.binders ++ bindings, type, .within hp ho, ?_⟩)
      rw [map_append, mem_append]
      exact not_or.mpr ⟨hbinder, hname⟩
  stores := by
    rintro name ⟨type, ho⟩
    exact h.stores ⟨type, .inside (mem_children.mpr (.inr hp)) ho⟩
  sets := by
    rintro name ⟨d, hd, hname⟩
    exact h.sets ⟨d, .inside (mem_children.mpr (.inr hp)) hd, hname⟩

theorem binder (h : e.Within known readable writable) {name : String} (hname : name ∈ e.binders.map Prod.fst) :
    name ∈ writable :=
  h.sets ⟨e, .here, hname⟩

theorem name {name : String} (h : (var name type).Within known readable writable) : name ∈ known :=
  h.reads ⟨[], type, .here, not_mem_nil⟩

end Expr.Within

/-! ### Congruences -/

/-- What an expression may do where `C` is known of the variables.  It may read some stores, and variables of which enough is
known; with a variable that it may set, more is known from then on.  If results are `typed`, their types matter. -/
structure Discipline (C : Type) where
  typed : Prop
  stores : Set String
  reads : C → String → DataType → Prop
  sets : C → String → DataType → C → Prop

/-- Values have any type, and of variables only the names are known. -/
def Discipline.untyped (readable writable : Set String) : Discipline (Set String) where
  typed := False
  stores := readable
  reads known name _ := name ∈ known
  sets known name _ inner := name ∈ writable ∧ inner = insert name known

/-- A relation between computations on two hosts, where something is known and the results have a property, that is kept by
whatever expressions do. -/
structure Congruence {C : Type} (D : Discipline C) (h : Host σ) (k : Host τ)
    (rel : C → {α : Type} → (α → Prop) → Eval σ α → Eval τ α → Prop) : Prop where
  world : h.world = k.world
  pure {c : C} {α : Type} {Q : α → Prop} {a : α} (holds : D.typed → Q a) : rel c Q (Pure.pure a) (Pure.pure a)
  throw {c : C} {α : Type} {Q : α → Prop} {fault : Fault}
    (ofOperation : (fault.ofStatement || fault.ofVariable) = false) :
    rel c Q (MonadExcept.throw fault) (MonadExcept.throw fault)
  bind {c : C} {α β : Type} {P : α → Prop} {Q : β → Prop} {x : Eval σ α} {y : Eval τ α} {p : α → Eval σ β}
    {q : α → Eval τ β} (first : rel c P x y) (second : ∀ a, (D.typed → P a) → rel c Q (p a) (q a)) :
    rel c Q (x >>= p) (y >>= q)
  readStore {c : C} {name : String} {type : DataType} (isReadable : name ∈ D.stores) :
    rel c (Fits (.ok type)) (readStore name type) (readStore name type)
  readParameter {c : C} (name : String) : rel c (Fits (.ok .string)) (readParameter name) (readParameter name)
  readVariable {c : C} {name : String} {type : DataType} (isKnown : D.reads c name type) :
    rel c (Fits (.ok type)) (readVariable name type) (readVariable name type)
  setVariable {c d : C} {α : Type} {Q : α → Prop} {name : String} {type : DataType} {v : Value} {x : Eval σ α}
    {y : Eval τ α} (allowed : D.sets c name type d) (fits : D.typed → v.WellFormed ∧ v.dataType = type)
    (rest : rel d Q x y) : rel c Q (Eval.setVariable name v >>= fun _ => x) (Eval.setVariable name v >>= fun _ => y)
  onBehalf {c : C} {α : Type} {Q : α → Prop} {x : Eval σ α} {y : Eval τ α} (script : String) (inside : rel c Q x y) :
    rel c Q (do Eval.enter script; let a ← x; Eval.leave; return a)
      (do Eval.enter script; let a ← y; Eval.leave; return a)
  call {c : C} (name : String) (arguments : List String) :
    rel c (fun _ => True) (liftM (h.call name arguments)) (liftM (k.call name arguments))
  evaluate {c : C} (code : String) : rel c (fun _ => True) (liftM (h.evaluate code)) (liftM (k.evaluate code))

/-- What a relation has to keep so that it is kept by reading what was looked up under a name. -/
theorem related_read (rel : Eval σ Value → Eval τ Value → Prop) (hpure : ∀ v, rel (pure v) (pure v))
    (hthrow : ∀ {fault : Fault}, fault.ofStatement = false → rel (throw fault) (throw fault)) {kind : NameKind}
    {name : String} {type : DataType} {missing : Fault} (hmissing : missing.ofStatement = false) (found : Option Value) :
    rel (match found with | some v => checkedRead kind name type v | none => throw missing)
      (match found with | some v => checkedRead kind name type v | none => throw missing) := by
  cases found with
  | none => exact hthrow hmissing
  | some v =>
    dsimp only [checkedRead]
    split
    · exact hpure v
    · exact hthrow rfl

theorem arguments_eq_map (h : Host σ) (es : List Expr) :
    Expr.arguments h es = es.map fun e => ⟨e.dataType, e.eval h⟩ := by
  induction es with
  | nil => rfl
  | cons e rest ih => simp [Expr.arguments, ih]

namespace Congruence

variable {C : Type} {D : Discipline C} {h : Host σ} {k : Host τ} {items : List Value}
  {rel : C → {α : Type} → (α → Prop) → Eval σ α → Eval τ α → Prop} (hc : Congruence D h k rel) {c d d' : C} {α β : Type}
  {P : Value → Prop} {item : DataType}
include hc

theorem guard {p : Prop} [Decidable p] {fault : Fault} {Q : β → Prop} {x : Eval σ β} {y : Eval τ β}
    (hfault : (fault.ofStatement || fault.ofVariable) = false) (hrest : rel c Q x y) :
    rel c Q (if p then MonadExcept.throw fault >>= fun _ : α => x else x)
      (if p then MonadExcept.throw fault >>= fun _ : α => y else y) := by
  split
  · exact hc.bind (P := fun _ => True) (hc.throw hfault) fun _ _ => hrest
  · exact hrest

theorem mono {P Q : α → Prop} {x : Eval σ α} {y : Eval τ α} (hxy : rel c P x y) (h : D.typed → ∀ a, P a → Q a) :
    rel c Q x y := by
  simpa only [bind_pure] using hc.bind hxy fun a ha => hc.pure fun htyped => h htyped a (ha htyped)

theorem ofExcept {r : Except Fault α} {P Q : α → Prop} (hr : Yields P r) (h : D.typed → ∀ a, P a → Q a) :
    rel c Q (Eval.ofExcept r) (Eval.ofExcept r) := by
  cases r with
  | ok a => exact hc.pure fun htyped => h htyped a hr
  | error fault => exact hc.throw hr

theorem typeOf (type : Except TypeFault DataType) :
    rel c (fun t => type = .ok t) (Eval.typeOf type) (Eval.typeOf type) := by
  cases type with
  | ok t => exact hc.pure fun _ => rfl
  | error fault => exact hc.throw rfl

/-! ### Loops -/

theorem comprehend {name : String} (hfirst : D.sets c name item d) (hagain : D.sets d name item d)
    {a : Option (Eval σ Value)} {b : Option (Eval τ Value)}
    (hcondition : rel d (fun _ => True) (conditionHolds a) (conditionHolds b)) (hbody : rel d P x y)
    (hitems : D.typed → ∀ v ∈ items, v.WellFormed ∧ v.dataType = item) :
    rel c (fun vs => ∀ v ∈ vs, P v) (comprehend name a x items) (comprehend name b y items) := by
  induction items generalizing c with
  | nil => exact hc.pure fun _ v hv => nomatch hv
  | cons item rest ih =>
    have hrest := ih hagain fun htyped => (forall_mem_cons.mp (hitems htyped)).2
    refine hc.setVariable hfirst (fun htyped => hitems htyped item (.head _)) (hc.bind hcondition fun holds _ => ?_)
    split
    · refine hc.bind hbody fun v hv => hc.bind hrest fun vs hvs => hc.pure fun htyped => ?_
      exact forall_mem_cons.mpr ⟨hv htyped, hvs htyped⟩
    · exact hrest

theorem foldItems {accumulator element : String} (hfirst : D.sets c accumulator type d') (hsecond : D.sets d' element item d)
    (hagain : D.sets d accumulator type d) (hagain' : D.sets d element item d) {result : Except TypeFault DataType}
    (hP : D.typed → ∀ v, P v → v.WellFormed ∧ v.dataType = type) (hbody : rel d P x y) {current : Value}
    (hcurrent : D.typed → P current)
    (hitems : D.typed → ∀ v ∈ items, v.WellFormed ∧ v.dataType = item) :
    rel c P (foldItems accumulator element result x current items) (foldItems accumulator element result y current items) := by
  induction items generalizing c d' current with
  | nil => exact hc.pure hcurrent
  | cons first rest ih =>
    -- each result of the body is the next accumulator
    refine hc.setVariable hfirst (fun htyped => hP htyped current (hcurrent htyped)) ?_
    refine hc.setVariable hsecond (fun htyped => hitems htyped first (.head _)) ?_
    refine hc.bind hbody fun next hnext => hc.bind (hc.typeOf result) fun t _ => hc.guard rfl ?_
    exact ih hagain hagain' hnext fun htyped => (forall_mem_cons.mp (hitems htyped)).2

/-! ### Sorting -/

section

variable {P : α → Prop} {p : α → α → Eval σ Bool} {q : α → α → Eval τ Bool}
  (hpq : ∀ x y, (D.typed → P x) → (D.typed → P y) → rel c (fun _ => True) (p x y) (q x y))
include hpq

theorem mergeM {xs ys : List α} (hxs : D.typed → ∀ x ∈ xs, P x) (hys : D.typed → ∀ y ∈ ys, P y) :
    rel c (fun zs => ∀ z ∈ zs, P z) (StreamBot.mergeM p xs ys) (StreamBot.mergeM q xs ys) := by
  fun_induction StreamBot.mergeM p xs ys with
  | case1 ys =>
    rw [StreamBot.mergeM]
    exact hc.pure hys
  | case2 xs =>
    rw [StreamBot.mergeM]
    · exact hc.pure hxs
    · assumption
  | case3 x xs y ys ihLeft ihRight =>
    rw [StreamBot.mergeM]
    have hx (htyped : D.typed) := forall_mem_cons.mp (hxs htyped)
    have hy (htyped : D.typed) := forall_mem_cons.mp (hys htyped)
    refine hc.bind (hpq x y (fun htyped => (hx htyped).1) fun htyped => (hy htyped).1) fun left _ => ?_
    split
    · refine hc.bind (ihLeft (fun htyped => (hx htyped).2) hys) fun zs hzs => hc.pure fun htyped => ?_
      exact forall_mem_cons.mpr ⟨(hx htyped).1, hzs htyped⟩
    · refine hc.bind (ihRight hxs fun htyped => (hy htyped).2) fun zs hzs => hc.pure fun htyped => ?_
      exact forall_mem_cons.mpr ⟨(hy htyped).1, hzs htyped⟩

theorem mergeSortM {xs : List α} (hxs : D.typed → ∀ x ∈ xs, P x) :
    rel c (fun zs => ∀ z ∈ zs, P z) (StreamBot.mergeSortM p xs) (StreamBot.mergeSortM q xs) := by
  fun_induction StreamBot.mergeSortM p xs with
  | case1 xs hshort =>
    rw [StreamBot.mergeSortM.eq_def q, dif_pos hshort]
    exact hc.pure hxs
  | case2 xs hlong ihLeft ihRight =>
    rw [StreamBot.mergeSortM.eq_def q, dif_neg hlong]
    refine hc.bind (ihLeft fun htyped x hx => hxs htyped x (mem_of_mem_take hx)) fun left hleft => ?_
    refine hc.bind (ihRight fun htyped x hx => hxs htyped x (mem_of_mem_drop hx)) fun right hright => ?_
    exact hc.mergeM hpq hleft hright

end

theorem compareWith {left right : String} (hleft : D.sets c left item d') (hright : D.sets d' right item d)
    (hxy : rel d P x y) {v w : Value} (hv : D.typed → v.WellFormed ∧ v.dataType = item)
    (hw : D.typed → w.WellFormed ∧ w.dataType = item) :
    rel c (fun _ => True) (compareWith left right x v w) (compareWith left right y v w) := by
  refine hc.setVariable hleft hv (hc.setVariable hright hw (hc.bind hxy fun result _ => ?_))
  split
  · exact hc.pure fun _ => trivial
  · exact hc.throw rfl

theorem leftFirst {left right : Option String} (hxy : ∀ l ∈ left, ∀ r ∈ right, ∃ inner d, D.sets c l item inner ∧
      D.sets inner r item d ∧ rel d P x y)
    {v w : Value} (hv : D.typed → v.WellFormed ∧ v.dataType = item) (hw : D.typed → w.WellFormed ∧ w.dataType = item) :
    rel c (fun _ => True) (Script.leftFirst left right x v w) (Script.leftFirst left right y v w) := by
  unfold Script.leftFirst
  split
  · next l r =>
    obtain ⟨inner, d, hleft, hright, hxy⟩ := hxy l rfl r rfl
    refine hc.bind (hc.compareWith hleft hright hxy hv hw) fun first _ => ?_
    split
    · exact hc.pure fun _ => trivial
    · exact hc.bind (hc.compareWith hleft hright hxy hw hv) fun second _ => hc.pure fun _ => trivial
  · exact hc.throw rfl

/-! ### Built-in functions -/

/-- The values of an expression on the two hosts are related, and they are of its type if it has one. -/
abbrev Related (_ : Congruence D h k rel) (c : C) (e : Expr) : Prop := rel c (Fits e.dataType) (e.eval h) (e.eval k)


theorem replaceCall {P Q R : Value → Prop} {a b e : Argument σ} {a' b' e' : Argument τ} (ha : rel c P a.value a'.value)
    (hb : rel c Q b.value b'.value) (he : rel c R e.value e'.value) :
    rel c (fun _ => True) (replaceCall a b e) (replaceCall a' b' e') := by
  refine hc.bind ha fun v _ => ?_
  split
  · refine hc.bind hb fun w _ => ?_
    split
    · refine hc.bind he fun u _ => ?_
      split
      · exact hc.pure fun _ => trivial
      · exact hc.throw rfl
    · exact hc.throw rfl
  · exact hc.throw rfl

section

variable {es : List Expr} (hes : ∀ e ∈ es, hc.Related c e)
include hes

theorem argumentAll :
    rel c (fun _ => True) (Argument.all (Expr.arguments h es)) (Argument.all (Expr.arguments k es)) := by
  induction es with
  | nil => exact hc.pure fun _ => trivial
  | cons e rest ih =>
    obtain ⟨he, hrest⟩ := forall_mem_cons.mp hes
    exact hc.bind he fun v _ => hc.bind (ih hrest) fun vs _ => hc.pure fun _ => trivial

/-- The functions differ in which arguments they evaluate, so the cases are those of how many there are. -/
theorem builtinCall (w : World) (f : Builtin) :
    rel c (fun _ => True) (f.call w (Expr.arguments h es)) (f.call w (Expr.arguments k es)) := by
  unfold Builtin.call
  extract_lets result counted result' counted'
  have hresult : ∀ r, rel c (fun _ => True) (result r) (result' r) := by
    intro r
    unfold result result'
    split
    · exact hc.pure fun _ => trivial
    · exact hc.throw rfl
  have one {e : Expr} (he : e ∈ es) := hc.bind (hes e he) fun v _ => hresult (f.ofOne w v)
  have two {d e : Expr} (hd : d ∈ es) (he : e ∈ es) :=
    hc.bind (hes d hd) fun u _ => hc.bind (hes e he) fun v _ => hresult (f.ofTwo w u v)
  have all := hc.bind (hc.argumentAll hes) fun vs _ => hresult (extreme f vs)
  unfold counted counted'
  simp only [arguments_eq_map, length_map] at all ⊢
  refine hc.guard rfl ?_
  cases f with
  | timestamp => exact hc.pure fun _ => trivial
  | min | max => exact all
  | type =>
    rcases es with _ | ⟨x, _ | ⟨y, _ | _⟩⟩
    · exact hc.throw rfl
    · exact hc.bind (hc.typeOf _) fun t _ => hc.pure fun _ => trivial
    · exact two (by simp) (by simp)
    · exact hc.throw rfl
  | replace =>
    rcases es with _ | ⟨x, _ | ⟨y, _ | ⟨z, _ | _⟩⟩⟩
    · exact hc.throw rfl
    · exact one (by simp)
    · exact two (by simp) (by simp)
    · exact hc.replaceCall (hes x (by simp)) (hes y (by simp)) (hes z (by simp))
    · exact hc.throw rfl
  | _ =>
    rcases es with _ | ⟨x, _ | ⟨y, _ | ⟨z, es⟩⟩⟩
    · exact hc.throw rfl
    · exact one (by simp)
    · exact two (by simp) (by simp)
    · exact hc.throw rfl

/-! ### Expressions -/

theorem evalAll (hP : D.typed → ∀ e ∈ es, ∀ v, Fits e.dataType v → P v) :
    rel c (fun vs => ∀ v ∈ vs, P v) (Expr.evalAll h es) (Expr.evalAll k es) := by
  induction es with
  | nil => exact hc.pure fun _ v hv => nomatch hv
  | cons e rest ih =>
    obtain ⟨he, hrest⟩ := forall_mem_cons.mp hes
    refine hc.bind he fun v hv => hc.bind (ih hrest fun htyped e he => hP htyped e (.tail _ he)) fun vs hvs => ?_
    exact hc.pure fun htyped => forall_mem_cons.mpr ⟨hP htyped e (.head _) v (hv htyped), hvs htyped⟩

end

theorem conditionHolds {o : Option Expr} (ho : ∀ e ∈ o, hc.Related c e) :
    rel c (fun _ => True) (conditionHolds (evalOption h o)) (conditionHolds (evalOption k o)) := by
  cases o with
  | none => exact hc.pure fun _ => trivial
  | some e => exact hc.bind (ho e rfl) fun v _ => hc.pure fun _ => trivial

variable {operand left right iterable body list : Expr} {delimiter : Option Expr}

theorem unary {op : UnaryOp} (ho : hc.Related c operand) : hc.Related c (.unary op operand) := by
  refine hc.bind ho fun v hv => ?_
  split
  · next code =>
    refine hc.bind (hc.evaluate _) fun output _ => hc.pure fun htyped => ⟨trivial, fun t ht => ?_⟩
    obtain ⟨u, hu, hresult⟩ := unary_dataType ht
    obtain rfl := (hv htyped).2 u hu
    exact Except.ok.inj hresult
  · refine hc.ofExcept (op.apply_yields v) fun htyped w hfits => ⟨hfits.1, fun t ht => ?_⟩
    obtain ⟨u, hu, hresult⟩ := unary_dataType ht
    obtain rfl := (hv htyped).2 u hu
    exact hfits.2 t hresult

theorem binary {op : BinaryOp} (hl : hc.Related c left) (hr : hc.Related c right) :
    hc.Related c (.binary left op right) := by
  -- a logical operator may return before its right operand is looked at
  have logical (b : Bool) (hop : op.isLogical) (_ : D.typed) : Fits (Expr.binary left op right).dataType (.bool b) := by
    refine ⟨trivial, fun t ht => ?_⟩
    obtain ⟨l, r, -, -, hresult⟩ := binary_dataType ht
    exact (resultType_logical hop hresult).symm
  refine hc.bind hl fun l hlv => ?_
  split
  · exact hc.pure (logical false rfl)
  · exact hc.pure (logical true rfl)
  · refine hc.bind hr fun r _ => ?_
    split
    · exact hc.pure (logical _ rfl)
    · exact hc.throw rfl
  · refine hc.bind hr fun r _ => ?_
    split
    · exact hc.pure (logical _ rfl)
    · exact hc.throw rfl
  · refine hc.bind hr fun r hrv => hc.ofExcept (BinaryOp.apply_yields l op r) fun htyped w hw => ?_
    have hfits := hw (hlv htyped).1 (hrv htyped).1
    refine ⟨hfits.1, fun t ht => ?_⟩
    obtain ⟨u, u', hu, hu', hresult⟩ := binary_dataType ht
    obtain rfl := (hlv htyped).2 u hu
    obtain rfl := (hrv htyped).2 u' hu'
    exact hfits.2 t hresult

theorem ternary {condition onTrue onFalse : Expr}
    (htypes : D.typed → onTrue.dataType = .ok type ∧ onFalse.dataType = .ok type)
    (hcondition : hc.Related c condition) (ht : hc.Related c onTrue) (hf : hc.Related c onFalse) :
    hc.Related c (.ternary condition onTrue onFalse type) := by
  refine hc.bind hcondition fun v _ => ?_
  split
  · exact hc.mono ht fun htyped v hv => ⟨hv.1, fun t h => hv.2 t ((htypes htyped).1.trans h)⟩
  · exact hc.mono hf fun htyped v hv => ⟨hv.1, fun t h => hv.2 t ((htypes htyped).2.trans h)⟩
  · exact hc.throw rfl

theorem callOperation {callee : Expr} {arguments : List Expr} (hcallee : hc.Related c callee)
    (ha : ∀ e ∈ arguments, hc.Related c e) : hc.Related c (.call callee arguments) := by
  have string (output : String) (_ : D.typed) : Fits (Expr.call callee arguments).dataType (.string output) :=
    .of_dataType trivial rfl
  refine hc.bind hcallee fun v _ => ?_
  split
  · next name _ =>
    split
    · rw [hc.world]
      exact hc.bind (hc.builtinCall ha _ _) fun output _ => hc.pure (string output)
    · -- the arguments and the call are evaluated on behalf of the script that is called
      have inside : rel c (fun _ => True) (do liftM (h.call name ((← Expr.evalAll h arguments).map (·.text))))
          (do liftM (k.call name ((← Expr.evalAll k arguments).map (·.text)))) :=
        hc.bind (hc.evalAll ha fun _ _ _ _ _ => trivial) fun values _ => hc.call _ _
      have whole := hc.bind (hc.onBehalf name inside) fun output _ => hc.pure (string output)
      simpa only [bind_assoc, pure_bind] using whole
  · exact hc.throw rfl

theorem subscript {index : Expr}
    (htypes : D.typed → ∃ container, operand.dataType = .ok container ∧ container.element? = some type)
    (ho : hc.Related c operand) (hi : hc.Related c index) :
    hc.Related c (.subscript operand index type) := by
  refine hc.bind ho fun v hv => hc.bind hi fun i _ => hc.ofExcept (v.at_yields i) fun htyped w hw => ?_
  obtain ⟨container, hcontainer, helement⟩ := htypes htyped
  obtain ⟨hw', htype⟩ := hw (hv htyped).1
  rw [(hv htyped).2 container hcontainer, helement] at htype
  exact .of_dataType hw' (congrArg _ (Option.some.inj htype))

section

variable (type item)
variable (hitem : D.typed → ∃ container, iterable.dataType = .ok container ∧ container.element? = some item)
  (hi : hc.Related c iterable) (hb : hc.Related d body)
include hitem hi hb

theorem comprehension {element : String} {condition : Option Expr} (hfirst : D.sets c element item d)
    (hagain : D.sets d element item d) (hcondition : ∀ e ∈ condition, hc.Related d e) :
    hc.Related c (.comprehension iterable element condition body) := by
  refine hc.bind hi fun v hv => ?_
  split
  · next items hitems =>
    refine hc.bind (hc.comprehend hfirst hagain (hc.conditionHolds hcondition) hb fun htyped =>
      Value.items?_fits hitems (hv htyped) (hitem htyped)) fun values hvalues => ?_
    refine hc.bind (hc.typeOf _) fun result hresult => hc.pure fun htyped => ⟨?_, fun t ht => ?_⟩
    · refine Value.allWellFormed_iff.mpr fun w hw => ?_
      exact (hvalues htyped w hw).imp_right fun h => h result (hresult htyped)
    · obtain ⟨u, hu, rfl⟩ := comprehension_dataType ht
      exact congrArg _ (Except.ok.inj ((hresult htyped).symm.trans hu))
  · exact hc.throw rfl

theorem fold {start : Expr} {accumulator element : String} (hfirst : D.sets c accumulator type d')
    (hsecond : D.sets d' element item d) (hagain : D.sets d accumulator type d) (hagain' : D.sets d element item d)
    (htypes : D.typed → start.dataType = .ok type ∧ body.dataType = .ok type)
    (hs : hc.Related c start) : hc.Related c (.fold iterable start accumulator element body) := by
  refine hc.bind hi fun v hv => ?_
  split
  · next items hitems =>
    refine hc.bind hs fun first hstart => hc.bind (hc.typeOf _) fun _ _ => hc.guard rfl ?_
    refine hc.foldItems hfirst hsecond hagain hagain' (fun htyped v hv => ?_) hb (fun htyped => ?_) fun htyped =>
      Value.items?_fits hitems (hv htyped) (hitem htyped)
    · exact hv.imp_right fun h => h type (htypes htyped).2
    · exact (htypes htyped).2 ▸ (htypes htyped).1 ▸ hstart htyped
  · exact hc.throw rfl

end

theorem split {text : Expr} (ht : hc.Related c text)
    (hd : ∀ e ∈ delimiter, hc.Related c e) : hc.Related c (.split text delimiter) := by
  refine hc.bind ht fun v _ => ?_
  split
  · cases delimiter with
    | none => exact hc.ofExcept (splitText_yields _ _) fun _ _ => id
    | some d =>
      refine hc.bind (hd d rfl) fun v _ => ?_
      split
      · exact hc.ofExcept (splitText_yields _ _) fun _ _ => id
      · exact hc.throw rfl
  · exact hc.throw rfl

theorem join (hl : hc.Related c list) (hd : ∀ e ∈ delimiter, hc.Related c e) : hc.Related c (.join list delimiter) := by
  refine hc.bind hl fun v _ => ?_
  split
  · refine hc.bind (hc.ofExcept (textsOf_yields _) fun _ _ => id) fun parts _ => ?_
    cases delimiter with
    | none => exact hc.pure fun _ => .of_dataType trivial rfl
    | some d =>
      refine hc.bind (hd d rfl) fun v _ => ?_
      split
      · exact hc.pure fun _ => .of_dataType trivial rfl
      · exact hc.throw rfl
  · exact hc.throw rfl

variable (item) in
theorem sort {left right : Option String} {comparison : Option Expr}
    (htype : D.typed → list.dataType = .ok (.list item)) (hl : hc.Related c list)
    (hcomparison : ∀ e ∈ comparison, ∀ l ∈ left, ∀ r ∈ right, ∃ inner d, D.sets c l item inner ∧
      D.sets inner r item d ∧ hc.Related d e) :
    hc.Related c (.sort list left right comparison) := by
  refine hc.bind hl fun v hv => ?_
  split
  · next element elements =>
    have helement (htyped : D.typed) : element = item := DataType.list.inj ((hv htyped).2 _ (htype htyped))
    have helements (htyped : D.typed) : ∀ w ∈ elements, w.WellFormed ∧ w.dataType = item :=
      helement htyped ▸ Value.allWellFormed_iff.mp (hv htyped).1
    -- a list of elements of the same kind is as good as the one that was sorted
    have sorted (vs : List Value) (hvs : D.typed → ∀ w ∈ vs, w.WellFormed ∧ w.dataType = item) (htyped : D.typed) :
        Fits list.dataType (.list element vs) :=
      ⟨Value.allWellFormed_iff.mpr (helement htyped ▸ hvs htyped), (hv htyped).2⟩
    split
    · exact hc.pure hv
    · cases comparison with
      | none =>
        refine hc.bind (hc.mergeSortM (fun v w _ _ => ?_) helements) fun vs hvs => hc.pure (sorted vs hvs)
        exact hc.ofExcept (numbersInOrder_yields v w) fun _ _ => id
      | some e =>
        refine hc.bind (hc.mergeSortM (fun v w hv hw => ?_) helements) fun vs hvs => hc.pure (sorted vs hvs)
        exact hc.leftFirst (hcomparison e rfl) hv hw
  · exact hc.throw rfl

omit hc

/-! ### Expressions and names -/

section

variable {readable writable : Set String} {rel : Set String → {α : Type} → (α → Prop) → Eval σ α → Eval τ α → Prop}

mutual

/-- **Every congruence relates the values of expressions**, where the variables that they read are known, the stores
that they read are readable and the variables that they set are writable. -/
theorem eval (hc : Congruence (.untyped readable writable) h k rel) : ∀ (e : Expr) {known : Set String},
    e.Within known readable writable → hc.Related known e
  | .numberLiteral _, _, _ | .stringLiteral _, _, _ | .boolLiteral _, _, _ => hc.pure nofun
  | .listLiteral _ elements, _, he =>
    hc.bind (hc.evalAll (P := fun _ => True) (evalEach hc elements fun _ => he.head) nofun) fun _ _ => hc.pure nofun
  | .emptyLists _, _, _ => hc.throw rfl
  | .store _ _, _, he => hc.readStore (he.stores ⟨_, .here⟩)
  | .parameter _, _, _ => hc.readParameter _
  | .var _ _, _, he => hc.readVariable he.name
  | .unary _ operand, _, he => hc.unary (eval hc operand (he.head (.head _)))
  | .binary left _ right, _, he =>
    hc.binary (eval hc left (he.head (.head _))) (eval hc right (he.head (.tail _ (.head _))))
  | .ternary condition onTrue onFalse _, _, he =>
    hc.ternary nofun (eval hc condition (he.head (.head _))) (eval hc onTrue (he.head (.tail _ (.head _))))
      (eval hc onFalse (he.head (.tail _ (.tail _ (.head _)))))
  | .call callee arguments, _, he =>
    hc.callOperation (eval hc callee (he.head (.head _))) (evalEach hc arguments fun _ ha => he.head (.tail _ ha))
  | .subscript operand index _, _, he =>
    hc.subscript nofun (eval hc operand (he.head (.head _))) (eval hc index (he.head (.tail _ (.head _))))
  | .comprehension iterable element condition body, known, he => by
    have inner : ∀ part ∈ condition.toList ++ [body], part.Within (insert element known) readable writable :=
      fun part hp => he.body hp (Set.subset_insert _ _) (by simp [binders])
    have hname : element ∈ writable := he.binder (by simp [binders])
    refine hc.comprehension .string nofun (eval hc iterable (he.head (.head _))) (eval hc body (inner body (by simp)))
      ⟨hname, rfl⟩ ⟨hname, by simp⟩ ?_
    exact evalOptional hc condition fun c hcondition => inner c (by simpa using .inl hcondition)
  | .fold iterable start accumulator element body, known, he => by
    have inner : body.Within (insert element (insert accumulator known)) readable writable :=
      he.body (.head _) ((Set.subset_insert _ _).trans (Set.subset_insert _ _)) (by simp [binders])
    have haccumulator : accumulator ∈ writable := he.binder (by simp [binders])
    have helement : element ∈ writable := he.binder (by simp [binders])
    exact hc.fold .string .string nofun (eval hc iterable (he.head (.head _))) (eval hc body inner)
      ⟨haccumulator, rfl⟩ ⟨helement, rfl⟩ ⟨haccumulator, by simp⟩ ⟨helement, by simp⟩ nofun
      (eval hc start (he.head (.tail _ (.head _))))
  | .split text delimiter, _, he =>
    hc.split (eval hc text (he.head (.head _)))
      (evalOptional hc delimiter fun _ hd => he.head (.tail _ (Option.mem_toList.mpr hd)))
  | .join list delimiter, _, he =>
    hc.join (eval hc list (he.head (.head _)))
      (evalOptional hc delimiter fun _ hd => he.head (.tail _ (Option.mem_toList.mpr hd)))
  | .sort list left right comparison, known, he => by
    refine hc.sort .string nofun (eval hc list (he.head (.head _))) fun c hcomparison l hl r hr => ?_
    have inner : ∀ d ∈ comparison, d.Within (insert r (insert l known)) readable writable := by
      intro d hd
      refine he.body (Option.mem_toList.mpr hd) ((Set.subset_insert _ _).trans (Set.subset_insert _ _)) ?_
      simp [binders, Option.mem_def.mp hl, Option.mem_def.mp hr]
    have hwritable (name : String) (hname : name ∈ left.toList ++ right.toList) : name ∈ writable :=
      he.binder (by simpa [binders] using hname)
    exact ⟨_, _, ⟨hwritable l (by simp [Option.mem_def.mp hl]), rfl⟩, ⟨hwritable r (by simp [Option.mem_def.mp hr]), rfl⟩,
      evalOptional hc comparison inner c hcomparison⟩

theorem evalEach (hc : Congruence (.untyped readable writable) h k rel) : ∀ (es : List Expr) {known : Set String},
    (∀ e ∈ es, e.Within known readable writable) → ∀ e ∈ es, hc.Related known e
  | [], _, _ => fun _ he => nomatch he
  | d :: rest, _, hes =>
    forall_mem_cons.mpr ⟨eval hc d (hes d (.head _)), evalEach hc rest fun e he => hes e (.tail _ he)⟩

theorem evalOptional (hc : Congruence (.untyped readable writable) h k rel) : ∀ (c : Option Expr) {known : Set String},
    (∀ e ∈ c, e.Within known readable writable) → ∀ e ∈ c, hc.Related known e
  | none, _, _ => fun _ he => absurd he (Option.not_mem_none _)
  | some d, _, hd => fun _ he => Option.mem_some.mp he ▸ eval hc d (hd d rfl)

end

end

end Congruence

end StreamBot.Script
