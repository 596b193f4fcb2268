import StreamBot.Proofs.Script.Simulation
import StreamBot.Script.Library

/-! # Executions and sessions

A statement that returns has set what it is about to the value of its expression (`Statement.Ends`).  Where
stores are kept without failures, an execution ends in one of three ways (`Outcome`): its arguments do not
match, one of its statements fails, or it runs to the end and writes its stores.  Everything that is proved
about statements and executions goes through these cases.

A session (`Library.after`) loads scripts into an empty library and executes them, in any order.  A step that
fails is followed by the next one all the same.
-/

namespace StreamBot.Script

open Dict

variable {name : String} {e : Expr} {f g : Frame}
variable {σ : Type} {output : Option String} {h : Host σ} {type : DataType}

/-! ### How a statement ends -/

inductive Slot where
  | store (key : StoreKey)
  | parameter (name : String)
  | var (name : String)

def Frame.value? (f : Frame) : Slot → Option Value
  | .store key => get? f.stores key
  | .parameter name => get? f.parameters name
  | .var name => get? f.bindings name

def Frame.put (f : Frame) (v : Value) : Slot → Frame
  | .store key => { f with stores := set f.stores key v }
  | .parameter name => { f with parameters := set f.parameters name v }
  | .var name => { f with bindings := set f.bindings name v }

theorem Frame.owner_put (f : Frame) (v : Value) (slot : Slot) : (f.put v slot).owner = f.owner := by
  cases slot <;> rfl

theorem Frame.value?_put_of_ne (f : Frame) (v : Value) {slot other : Slot} (h : other ≠ slot) :
    (f.put v slot).value? other = f.value? other := by
  cases slot <;> cases other <;> first | rfl | exact get?_set_of_ne _ _ fun heq => h (heq ▸ rfl)

/-- What an assignment sets that is executed on behalf of a script. -/
def Target.slot (owner : String) : Target → Slot
  | .store name _ => .store ⟨owner, name⟩
  | .parameter name => .parameter name
  | .var name _ => .var name

/-- How a statement ends that returns, if it starts in the frame `f` and the state `s`: its expression has a
value, and what it is about is set to the value.  An assignment needs an old value of the same type, a
definition needs that there is none. -/
inductive Statement.Ends (h : Host σ) (f : Frame) (s : σ) : Statement → Option String → Frame → σ → Prop where
  | print {e : Expr} {v : Value} {g : Frame} {t : σ} (value : e.eval h f s = (.ok (v, g), t)) :
      Ends h f s (.print e) (some v.text) g t
  | assign {target : Target} {e : Expr} {old v : Value} {g : Frame} {t : σ}
      (found : f.value? (target.slot f.owner) = some old) (same : e.dataType = .ok old.dataType)
      (value : e.eval h f s = (.ok (v, g), t)) : Ends h f s (.assign target e) none (g.put v (target.slot f.owner)) t
  | define {name : String} {type : DataType} {e : Expr} {v : Value} {g : Frame} {t : σ}
      (missing : f.value? (.var name) = none) (same : e.dataType = .ok type)
      (value : e.eval h f s = (.ok (v, g), t)) : Ends h f s (.define name type e) none (g.put v (.var name)) t

/-- The run of an assignment: it fails where there is no old value. -/
theorem assign_run (h : Host σ) (target : Target) (e : Expr) (f : Frame) (s : σ) :
    ∃ kind name fault, Fault.ofVariable fault = false ∧ (∀ x, fault ≠ .alreadyDefined x) ∧
      (Statement.assign target e).execute h f s = (f.value? (target.slot f.owner)).elim (.error fault, s) fun old =>
        (do let v ← assignedValue h kind name old e; modify (Frame.put · v (target.slot f.owner)); return none) f s := by
  cases target with
  | store name =>
    refine ⟨.store, name, .assignStoreMissing name f.owner, rfl, nofun, ?_⟩
    rw [Statement.execute, Eval.get_run, Target.slot, Frame.value?]
    cases get? f.stores ⟨f.owner, name⟩ <;> rfl
  | parameter name =>
    refine ⟨.parameter, name, .assignParameterMissing name, rfl, nofun, ?_⟩
    rw [Statement.execute, Eval.get_run, Target.slot, Frame.value?]
    cases get? f.parameters name <;> rfl
  | var name =>
    refine ⟨.var, name, .assignVariableMissing name, rfl, nofun, ?_⟩
    rw [Statement.execute, Eval.get_run, Target.slot, Frame.value?]
    cases get? f.bindings name <;> rfl

theorem assignedValue_returns {kind : NameKind} {old v : Value} {s t : σ}
    (hr : assignedValue h kind name old e f s = (.ok (v, g), t)) :
    e.dataType = .ok old.dataType ∧ e.eval h f s = (.ok (v, g), t) := by
  unfold assignedValue at hr
  rcases htype : e.dataType with fault | type
  · rw [htype] at hr
    cases hr
  · rw [htype] at hr
    by_cases hsame : old.dataType = type
    · subst hsame
      exact ⟨rfl, by simpa [Eval.typeOf] using hr⟩
    · simp [Eval.typeOf, hsame] at hr
      cases hr

theorem define_run (h : Host σ) (htype : e.dataType = .ok type) (f : Frame) (s : σ) :
    (Statement.define name type e).execute h f s =
      if (get? f.bindings name).isSome then (.error (.alreadyDefined name), s)
      else (do Eval.setVariable name (← e.eval h); return none) f s := by
  rw [Statement.execute, Eval.get_run, has_eq_isSome, htype]
  split
  · rfl
  · simp [Eval.typeOf]

theorem define_dataType {s t : σ}
    (hr : (Statement.define name type e).execute h f s = (.ok (output, g), t)) : e.dataType = .ok type := by
  rw [Statement.execute, Eval.get_run] at hr
  split at hr
  · cases hr
  · rcases hactual : e.dataType with fault | actual
    · rw [hactual] at hr
      cases hr
    · by_cases hsame : actual = type
      · rw [hsame]
      · rw [hactual] at hr
        simp [Eval.typeOf, hsame] at hr
        cases hr

theorem Statement.ends_of_execute {statement : Statement} {s t : σ}
    (hr : statement.execute h f s = (.ok (output, g), t)) : statement.Ends h f s output g t := by
  cases statement with
  | print e =>
    obtain ⟨v, f', s', hv, hr⟩ := Eval.ok_of_bind hr
    cases hr
    exact .print hv
  | assign target e =>
    obtain ⟨kind, name, fault, -, -, hrun⟩ := assign_run h target e f s
    rw [hrun] at hr
    rcases hold : f.value? (target.slot f.owner) with _ | old
    · rw [hold] at hr
      cases hr
    · rw [hold] at hr
      obtain ⟨new, f', s', hnew, hr⟩ := Eval.ok_of_bind hr
      obtain ⟨hsame, hvalue⟩ := assignedValue_returns hnew
      cases hr
      exact .assign hold hsame hvalue
  | define name type e =>
    have htype := define_dataType hr
    rw [define_run h htype] at hr
    split at hr
    · cases hr
    · next hmissing =>
      obtain ⟨v, f', s', hv, hr⟩ := Eval.ok_of_bind hr
      cases hr
      exact .define (Option.not_isSome_iff_eq_none.mp hmissing) htype hv

/-! ### How an execution ends -/

structure Keeper.NeverFails (keeper : Keeper σ) : Prop where
  read : ∀ keys s, ∃ stores t, keeper.read keys s = (.ok stores, t)
  write : ∀ values s, ∃ t, keeper.write values s = (.ok (), t)

def startFrame (script : Script) (stores : Dict StoreKey Value) (arguments : List String) : Frame where
  callStack := [script.name]
  stores := stores
  parameters := bindParameters script.parameters arguments

/-- How an execution that starts in the state `s` ends, and the state then. -/
inductive Outcome (h : Host σ) (keeper : Keeper σ) (script : Script) (arguments : List String) (s : σ) :
    Except Fault (Option String) × σ → Prop where
  | mismatch (differ : arguments.length ≠ script.parameters.length) : Outcome h keeper script arguments s
        (.error (.argumentCount script.name script.parameters.length arguments.length), s)
  | failed {stores : Dict StoreKey Value} {fault : Fault} {t u : σ}
      (read : keeper.read script.storeKeys s = (.ok stores, t))
      (run : executeAll h none script.statements (startFrame script stores arguments) t = (.error fault, u)) :
      Outcome h keeper script arguments s (.error fault, u)
  | finished {stores : Dict StoreKey Value} {output : Option String} {g : Frame} {t u v : σ}
      (read : keeper.read script.storeKeys s = (.ok stores, t))
      (run : executeAll h none script.statements (startFrame script stores arguments) t = (.ok (output, g), u))
      (write : keeper.write g.stores u = (.ok (), v)) :
      Outcome h keeper script arguments s (.ok output, v)

/-- What an execution does with the values of its stores. -/
def executeFrom (h : Host σ) (keeper : Keeper σ) (script : Script) (arguments : List String)
    (stores : Dict StoreKey Value) : Act σ (Option String) := do
  let result ← (executeAll h none script.statements).run (startFrame script stores arguments)
  keeper.write result.2.stores
  return result.1

theorem execute_eq_read_bind (h : Host σ) (keeper : Keeper σ) {script : Script} {arguments : List String}
    (hcount : arguments.length = script.parameters.length) :
    script.execute h keeper arguments = keeper.read script.storeKeys >>= executeFrom h keeper script arguments := by
  unfold Script.execute
  rw [if_neg (not_not_intro hcount)]
  rfl

theorem execute_outcome {keeper : Keeper σ} (hkeeper : keeper.NeverFails) (h : Host σ) (script : Script)
    (arguments : List String) (s : σ) :
    Outcome h keeper script arguments s (script.execute h keeper arguments s) := by
  by_cases hcount : arguments.length = script.parameters.length
  -- reading and writing cannot fail, so what is left are the ends of the statements
  · obtain ⟨stores, t, hread⟩ := hkeeper.read script.storeKeys s
    rw [execute_eq_read_bind h keeper hcount, Act.bind_run, hread]
    dsimp only [executeFrom, StateT.run]
    rw [Act.bind_run]
    rcases hrun : executeAll h none script.statements (startFrame script stores arguments) t with
      ⟨fault | ⟨output, g⟩, u⟩
    · exact .failed hread hrun
    · obtain ⟨v, hwrite⟩ := hkeeper.write g.stores u
      dsimp only
      rw [Act.bind_run, hwrite]
      exact .finished hread hrun hwrite
  · have hexecute : script.execute h keeper arguments s =
        (.error (.argumentCount script.name script.parameters.length arguments.length), s) := by
      unfold Script.execute
      rw [if_pos hcount]
      rfl
    rw [hexecute]
    exact .mismatch hcount

theorem Keeper.nothing_neverFails : (Keeper.nothing : Keeper σ).NeverFails :=
  ⟨fun _ s => ⟨[], s, rfl⟩, fun _ s => ⟨s, rfl⟩⟩

/-- Code that is executed does what some script does that keeps nothing, unless it does nothing at all. -/
theorem executeSource_state (h : Host σ) (source : String) (s : σ) : (executeSource h source s).2 = s ∨
      ∃ script : Script, (executeSource h source s).2 = (script.execute h .nothing [] s).2 := by
  unfold executeSource
  cases ofSource "" source with
  | error fault => exact .inl rfl
  | ok script =>
    dsimp only
    split
    · exact .inl rfl
    · split
      · exact .inl rfl
      · refine .inr ⟨script, ?_⟩
        rw [Act.bind_run]
        rcases script.execute h .nothing [] s with ⟨_ | _ | _, _⟩ <;> rfl

/-! ### The stores of a library -/

namespace Library

def commit (name : String) (values : Dict StoreKey Value) (library : Library) : Library :=
  match get? library name with
  | none => library
  | some entry =>
    set library name { entry with stores := values.foldl (fun d (key, v) => set d key v) entry.stores }

def stored (name : String) (keys : List StoreKey) (library : Library) : Dict StoreKey Value :=
  match get? library name with
  | none => []
  | some entry => entry.stores.filter fun p => keys.contains p.1

theorem keeper_read (name : String) (keys : List StoreKey) (library : Library) :
    (keeper name).read keys library = (.ok (stored name keys library), library) := by
  unfold keeper stored
  dsimp only
  rw [run_get_bind]
  cases get? library name <;> rfl

theorem keeper_write (name : String) (values : Dict StoreKey Value) (library : Library) :
    (keeper name).write values library = (.ok (), commit name values library) := rfl

theorem keeper_neverFails (name : String) : (keeper name).NeverFails where
  read keys library := ⟨_, _, keeper_read name keys library⟩
  write values library := ⟨_, keeper_write name values library⟩

def scripts (library : Library) (name : String) : Option Script :=
  (get? library name).map (·.script)

theorem scripts_commit (name : String) (values : Dict StoreKey Value) (library : Library) :
    (library.commit name values).scripts = library.scripts := by
  funext other
  unfold scripts commit
  rcases hentry : get? library name with _ | entry
  · rfl
  · by_cases hother : other = name
    · subst hother
      rw [get?_set_self, hentry]
      rfl
    · rw [get?_set_of_ne _ _ hother]

theorem get?_commit_of_ne {other : String} (values : Dict StoreKey Value) (library : Library) (h : other ≠ name)
    : get? (library.commit name values) other = get? library other := by
  unfold commit
  split
  · rfl
  · exact get?_set_of_ne _ _ h

theorem get?_commit_congr {other : String} (values : Dict StoreKey Value) {library library' : Library}
    (hname : get? library name = get? library' name) (hother : get? library other = get? library' other) :
    get? (library.commit name values) other = get? (library'.commit name values) other := by
  by_cases h : other = name
  · subst h
    unfold commit
    rw [← hname]
    rcases get? library other with _ | entry
    · exact hother
    · simp only [get?_set_self]
  · rw [get?_commit_of_ne values library h, get?_commit_of_ne values library' h, hother]

theorem call_state (h : Host Library) (name : String) (arguments : List String) (library : Library) :
    (call h name arguments library).2 = (get? library name).elim library
      fun entry => (entry.script.execute h (keeper name) arguments library).2 := by
  unfold call
  rw [run_get_bind]
  cases get? library name with
  | none => rfl
  | some entry =>
    dsimp only [Option.elim]
    rw [Act.bind_run]
    rcases entry.script.execute h (keeper name) arguments library with ⟨_ | _ | _, _⟩ <;> rfl

/-! ### Sessions -/

/-- One step of a session, in the world as it is then. -/
inductive Step where
  | load (world : World) (name source : String)
  | execute (world : World) (name : String) (arguments : List String)

/-- The library after a step.  A source text that is no script and a name that is not loaded change
nothing; what a failure leaves behind stays. -/
def afterStep (library : Library) : Step → Library
  | .load world name source =>
    match ofSource name source with
    | .error _ => library
    | .ok script => (add world script library).2
  | .execute world name arguments =>
    match get? library name with
    | none => library
    | some entry => (execute world entry arguments library).2

/-- The library after a session that starts with an empty one. -/
def after (steps : List Step) : Library := steps.foldl afterStep []

theorem after_induction {P : Library → Prop} (empty : P [])
    (keep : ∀ library step, P library → P (afterStep library step)) (steps : List Step) :
    P (after steps) := by
  have run : ∀ library, P library → P (steps.foldl afterStep library) := by
    induction steps with
    | nil => exact fun _ h => h
    | cons step rest ih => exact fun library h => ih _ (keep library step h)
  exact run [] empty

end Library

end StreamBot.Script
