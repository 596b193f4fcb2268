import StreamBot.Proofs.Script.Congruence
import StreamBot.Script.Execution

/-! # Scripts on two hosts

Scripts reach the state of their host only through its operations.  So if the operations of two hosts
correspond to each other, then whatever a script does on one of them corresponds to what it does on the
other one.

A `Bridge` says which states of two hosts correspond.  Some states of the first host may be given up
(`lost`): nothing is promised once such a state is reached, but it must not be left again.  `Act.Sim` and
`Eval.Sim` are the simulations along a bridge.  They are a congruence (`Host.CallsSim.congruence`), so they go
from the operations of the hosts (`Host.Sim`) to expressions (`eval_sim`), statements and whole scripts
(`execute_sim`).

A single host is compared with itself in `Host.Keeps`: a relation between states that is reflexive and
transitive and holds across the operations of the host holds across every execution.
-/

namespace StreamBot.Script

open Host

variable {σ τ α β : Type}
variable {x : Act σ α} {y : Act τ α}

/-- Which states of two hosts correspond, and which states of the first one are given up. -/
structure Bridge (σ τ : Type) where
  agree : σ → τ → Prop
  lost : σ → Prop

/-- `y` does to corresponding states what `x` does, unless `x` gets lost. -/
structure Act.Sim (B : Bridge σ τ) (x : Act σ α) (y : Act τ α) : Prop where
  lost : ∀ s, B.lost s → B.lost (x s).2
  agree : ∀ s t, B.agree s t → B.lost (x s).2 ∨ ((x s).1 = (y t).1 ∧ B.agree (x s).2 (y t).2)

def Eval.Sim (B : Bridge σ τ) (x : Eval σ α) (y : Eval τ α) : Prop := ∀ f, Act.Sim B (x f) (y f)

namespace Act.Sim

variable {B : Bridge σ τ}

theorem pure (a : α) : Act.Sim B (Pure.pure a) (Pure.pure a) :=
  ⟨fun _ h => h, fun _ _ h => .inr ⟨rfl, h⟩⟩

theorem throw (fault : Fault) : Act.Sim B (MonadExcept.throw fault : Act σ α) (MonadExcept.throw fault) :=
  ⟨fun _ h => h, fun _ _ h => .inr ⟨rfl, h⟩⟩

theorem bind {k : α → Act σ β} {l : α → Act τ β} (hx : Act.Sim B x y)
    (hk : ∀ a, Act.Sim B (k a) (l a)) : Act.Sim B (x >>= k) (y >>= l) := by
  -- once the first part has got lost, the second one does not find back
  have stays : ∀ s, B.lost (x s).2 → B.lost ((x >>= k) s).2 := by
    intro s hs
    rw [Act.bind_run]
    rcases hxs : x s with ⟨fault | a, s'⟩
    · rw [hxs] at hs
      exact hs
    · rw [hxs] at hs
      exact (hk a).lost s' hs
  refine ⟨fun s hs => stays s (hx.lost s hs), fun s t hst => ?_⟩
  rcases hx.agree s t hst with hlost | ⟨hsame, hagree⟩
  · exact .inl (stays s hlost)
  · rw [Act.bind_run, Act.bind_run]
    rcases hxs : x s with ⟨r, s'⟩
    rcases hyt : y t with ⟨r', t'⟩
    rw [hxs, hyt] at hsame hagree
    obtain rfl : r = r' := hsame
    cases r with
    | error fault => exact .inr ⟨rfl, hagree⟩
    | ok a => exact (hk a).agree s' t' hagree

theorem withState {x : σ → Act σ α} {y : τ → Act τ α} (lost : ∀ s, B.lost s → B.lost (x s s).2)
    (h : ∀ s t, B.agree s t → Act.Sim B (x s) (y t)) : Act.Sim B (get >>= x) (get >>= y) :=
  ⟨lost, fun s t hst => (h s t hst).agree s t hst⟩

theorem guard {c : Prop} [Decidable c] {fault : Fault} {x : Act σ β} {y : Act τ β} (h : Act.Sim B x y) :
    Act.Sim B (if c then MonadExcept.throw fault >>= fun _ : α => x else x)
      (if c then MonadExcept.throw fault >>= fun _ : α => y else y) := by
  split
  · exact .bind (.throw fault) fun _ => h
  · exact h

end Act.Sim

/-! ### Simulations in a frame -/

namespace Eval.Sim

variable {B : Bridge σ τ}

theorem pure (a : α) : Eval.Sim B (Pure.pure a) (Pure.pure a) := fun f => .pure (a, f)

theorem throw (fault : Fault) : Eval.Sim B (MonadExcept.throw fault : Eval σ α) (MonadExcept.throw fault) :=
  fun _ => .throw fault

theorem bind {x : Eval σ α} {y : Eval τ α} {k : α → Eval σ β} {l : α → Eval τ β}
    (hx : Eval.Sim B x y) (hk : ∀ a, Eval.Sim B (k a) (l a)) : Eval.Sim B (x >>= k) (y >>= l) :=
  fun f => .bind (hx f) fun r => hk r.1 r.2

theorem lift (h : Act.Sim B x y) : Eval.Sim B (liftM x : Eval σ α) (liftM y) :=
  fun f => .bind h fun a => .pure (a, f)

theorem withFrame {k : Frame → Eval σ β} {l : Frame → Eval τ β} (h : ∀ f, Eval.Sim B (k f) (l f)) :
    Eval.Sim B (get >>= k) (get >>= l) :=
  fun f => h f f

theorem update (g : Frame → Frame) : Eval.Sim B (modify g : Eval σ Unit) (modify g) :=
  fun f => .pure ((), g f)

theorem guard {c : Prop} [Decidable c] {fault : Fault} {x : Eval σ β} {y : Eval τ β} (h : Eval.Sim B x y) :
    Eval.Sim B (if c then MonadExcept.throw fault >>= fun _ : α => x else x)
      (if c then MonadExcept.throw fault >>= fun _ : α => y else y) := by
  split
  · exact .bind (.throw fault) fun _ => h
  · exact h

theorem typeOf (type : Except TypeFault DataType) :
    Eval.Sim B (Eval.typeOf type : Eval σ DataType) (Eval.typeOf type) := by
  cases type with
  | ok t => exact .pure t
  | error fault => exact .throw _

theorem setVariable (name : String) (v : Value) :
    Eval.Sim B (Eval.setVariable name v : Eval σ Unit) (Eval.setVariable name v) :=
  .update _

end Eval.Sim

/-! ### Expressions -/

variable {B : Bridge σ τ} {h : Host σ} {k : Host τ} {π : σ → τ}

/-- What expressions ask of two hosts corresponds to each other. -/
structure Host.CallsSim (B : Bridge σ τ) (h : Host σ) (k : Host τ) : Prop where
  world : h.world = k.world
  call : ∀ name arguments, Act.Sim B (h.call name arguments) (k.call name arguments)
  evaluate : ∀ code, Act.Sim B (h.evaluate code) (k.evaluate code)

/-- The operations of two hosts correspond to each other. -/
structure Host.Sim (B : Bridge σ τ) (h : Host σ) (k : Host τ) : Prop extends
    CallsSim B h k where
  pause : Act.Sim B h.pause k.pause

theorem Host.CallsSim.congruence (hs : CallsSim B h k) :
    Congruence (.untyped Set.univ Set.univ) h k fun _ {α} _ (x : Eval σ α) y => Eval.Sim B x y where
  world := hs.world
  pure _ := .pure _
  throw _ := .throw _
  bind first second := .bind first fun a => second a nofun
  readStore _ := .withFrame fun _ => related_read (Eval.Sim B) .pure (fun _ => .throw _) rfl _
  readParameter _ := .withFrame fun _ => related_read (Eval.Sim B) .pure (fun _ => .throw _) rfl _
  readVariable _ := .withFrame fun _ => related_read (Eval.Sim B) .pure (fun _ => .throw _) rfl _
  setVariable _ _ rest := .bind (.setVariable _ _) fun _ => rest
  onBehalf _ inside :=
    .bind (.update _) fun _ => .bind inside fun a => .bind (.update _) fun _ => .pure a
  call name arguments := .lift (hs.call name arguments)
  evaluate code := .lift (hs.evaluate code)

theorem eval_sim (hs : CallsSim B h k) (e : Expr) : Eval.Sim B (e.eval h) (e.eval k) :=
  hs.congruence.eval e ⟨Set.subset_univ _, Set.subset_univ _, Set.subset_univ _⟩

/-! ### Statements and scripts -/

theorem assignedValue_sim (hs : CallsSim B h k) (kind : NameKind) (name : String) (old : Value) (e : Expr) :
    Eval.Sim B (assignedValue h kind name old e) (assignedValue k kind name old e) :=
  .bind (.typeOf _) fun _ => .guard (eval_sim hs e)

theorem statement_sim (hs : CallsSim B h k) (s : Statement) : Eval.Sim B (s.execute h) (s.execute k) := by
  fun_cases Statement.execute h s with
  | case1 e => exact .bind (eval_sim hs e) fun v => .pure _
  | case2 name type e =>
    refine .withFrame fun f => ?_
    dsimp only
    split
    · exact .throw _
    · refine .bind (assignedValue_sim hs _ _ _ e) fun new => ?_
      exact .bind (.update _) fun _ => .pure _
  | case3 name e =>
    refine .withFrame fun f => ?_
    split
    · exact .throw _
    · refine .bind (assignedValue_sim hs _ _ _ e) fun new => ?_
      exact .bind (.update _) fun _ => .pure _
  | case4 name type e =>
    refine .withFrame fun f => ?_
    split
    · exact .throw _
    · refine .bind (assignedValue_sim hs _ _ _ e) fun new => ?_
      exact .bind (.setVariable _ _) fun _ => .pure _
  | case5 name type e =>
    refine .withFrame fun f => .guard (.bind (.typeOf _) fun actual => .guard ?_)
    exact .bind (eval_sim hs e) fun v => .bind (.setVariable _ _) fun _ => .pure _

theorem executeAll_sim (hs : Sim B h k) (output : Option String) (statements : List Statement) :
    Eval.Sim B (executeAll h output statements) (executeAll k output statements) := by
  induction statements generalizing output with
  | nil => exact .pure _
  | cons s rest ih =>
    exact .bind (.lift hs.pause) fun _ => .bind (statement_sim hs.toCallsSim s) fun more => ih _

/-- Two ways to keep stores correspond to each other. -/
structure Keeper.Sim (B : Bridge σ τ) (a : Keeper σ) (b : Keeper τ) : Prop where
  read : ∀ keys, Act.Sim B (a.read keys) (b.read keys)
  write : ∀ values, Act.Sim B (a.write values) (b.write values)

theorem Keeper.Sim.nothing : Keeper.Sim B (.nothing : Keeper σ) .nothing :=
  ⟨fun _ => .pure _, fun _ => .pure _⟩

theorem execute_sim (hs : Sim B h k) {a : Keeper σ} {b : Keeper τ} (hkeep : Keeper.Sim B a b)
    (script : Script) (arguments : List String) :
    Act.Sim B (script.execute h a arguments) (script.execute k b arguments) := by
  refine .guard ?_
  refine .bind (hkeep.read _) fun stores => ?_
  refine .bind (executeAll_sim hs none script.statements _) fun result => ?_
  exact .bind (hkeep.write _) fun _ => .pure _

theorem executeSource_sim (hs : Sim B h k) (source : String) :
    Act.Sim B (executeSource h source) (executeSource k source) := by
  unfold executeSource
  split
  · exact .throw _
  · refine .guard (.guard (.bind (execute_sim hs .nothing _ _) fun output => ?_))
    split
    · exact .pure _
    · exact .throw _

theorem initialStores_sim (hs : CallsSim B h k) (script : String) (known : Dict StoreKey Value) (stores : List Store) :
    Act.Sim B (initialStores h script known stores) (initialStores k script known stores) := by
  induction stores generalizing known with
  | nil => exact .pure _
  | cons s rest ih => exact .bind (eval_sim hs s.value _) fun r => ih _

/-! ### States with more in them -/

/-- States of the first host that have a state of the second one in them. -/
def Bridge.onto (π : σ → τ) : Bridge σ τ where
  agree s t := π s = t
  lost _ := False

theorem Act.Sim.onto (h : ∀ s, (x s).1 = (y (π s)).1 ∧ π (x s).2 = (y (π s)).2) : Act.Sim (.onto π) x y := by
  refine ⟨fun _ hlost => hlost, fun s t hst => .inr ?_⟩
  cases hst
  exact h s

theorem Act.Sim.onto_run (h : Act.Sim (.onto π) x y) (s : σ) : y (π s) = ((x s).1, π (x s).2) := by
  rcases h.agree s (π s) rfl with hlost | ⟨hsame, hafter⟩
  · exact hlost.elim
  · exact Prod.ext hsame.symm hafter.symm

/-! ### One host -/

/-- What expressions ask of a host relates the state before to the state after. -/
structure Host.CallsKeep (R : σ → σ → Prop) (h : Host σ) : Prop where
  call : ∀ name arguments, Along R (h.call name arguments)
  evaluate : ∀ code, Along R (h.evaluate code)

/-- The operations of a host relate the state before to the state after. -/
structure Host.Keeps (R : σ → σ → Prop) (h : Host σ) : Prop extends CallsKeep R h where
  pause : Along R h.pause

def Bridge.after (R : σ → σ → Prop) (start : σ) : Bridge σ σ where
  agree s t := s = t ∧ R start s
  lost _ := False

section

variable {R : σ → σ → Prop} [Chained R]

theorem Act.Sim.of_along (hx : Along R x) (start : σ) : Act.Sim (.after R start) x x := by
  refine ⟨fun _ hlost => hlost, fun s t hst => .inr ?_⟩
  obtain ⟨rfl, hstart⟩ := hst
  exact ⟨rfl, rfl, Chained.trans hstart (hx s)⟩

theorem Act.Sim.along (hx : ∀ start, Act.Sim (.after R start) x x) : Along R x := by
  intro s
  -- the bridge starts where `x` does
  rcases (hx s).agree s s ⟨rfl, Chained.refl s⟩ with hlost | hagree
  · exact hlost.elim
  · exact hagree.2.2

theorem Host.CallsKeep.sim (hh : h.CallsKeep R) (start : σ) : CallsSim (.after R start) h h :=
  ⟨rfl, fun name arguments => .of_along (hh.call name arguments) start, fun code => .of_along (hh.evaluate code) start⟩

theorem Host.Keeps.sim (hh : h.Keeps R) (start : σ) : Sim (.after R start) h h :=
  ⟨hh.toCallsKeep.sim start, .of_along hh.pause start⟩

theorem statement_keeps (hh : h.CallsKeep R) (statement : Statement) (f : Frame) :
    Along R (statement.execute h f) :=
  Act.Sim.along fun start => statement_sim (hh.sim start) statement f

theorem executeAll_keeps (hh : h.Keeps R) (output : Option String)
    (statements : List Statement) (f : Frame) : Along R (executeAll h output statements f) :=
  Act.Sim.along fun start => executeAll_sim (hh.sim start) output statements f

theorem executeSource_keeps (hh : h.Keeps R) (source : String) : Along R (executeSource h source) :=
  Act.Sim.along fun start => executeSource_sim (hh.sim start) source

theorem initialStores_keeps (hh : h.CallsKeep R) (script : String)
    (known : Dict StoreKey Value) (stores : List Store) :
    Along R (initialStores h script known stores) :=
  Act.Sim.along fun start => initialStores_sim (hh.sim start) script known stores

theorem hostWithin_keeps {world : World} {pause : Act σ Unit}
    {call : Host σ → String → List String → Act σ String} (hpause : Along R pause)
    (hcall : ∀ h, Keeps R h → ∀ name arguments, Along R (call h name arguments)) (n : Nat) :
    Keeps R (hostWithin world pause call n) := by
  induction n with
  | zero => exact ⟨⟨fun _ _ => Chained.refl, fun _ => Chained.refl⟩, hpause⟩
  | succ n ih => exact ⟨⟨hcall _ ih, executeSource_keeps ih⟩, hpause⟩

end

end StreamBot.Script
