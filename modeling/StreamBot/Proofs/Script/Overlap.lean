import StreamBot.Proofs.Script.Locality
import StreamBot.Proofs.Script.StoreTyping

/-! # Overlapping executions

A script can be executed again while an execution of it is running: it calls itself, directly or through
other scripts.  Each execution has a copy of the stores.  It reads them when it begins, its assignments go to
the copy, and all of the copy is written back at the end.  So an execution undoes what executions of the same
script have written meanwhile.

To say this of single assignments, executions are traced.  A trace is a tree: it says which stores an
execution assigns, and between the assignments which scripts are executed and what happens there.  A traced
execution is the plain one (`Traced.execute_erase`), and the values of all stores after it can be read off its
trace (`Library.value_of_execute`).
-/

namespace StreamBot.Script

open List Dict Library

variable {σ : Type}
variable {output : Option String}
variable (world : World) (script : String) (assignments : List (StoreKey × Value)) (name : String) (inside : List Happening)

/-! ### Traces -/

inductive Happening where
  | assigned (key : StoreKey) (value : Value)
  /-- A script is executed, in which other things happen. -/
  | executed (script : String) (finished : Bool) (inside : List Happening)

def Happening.own? : Happening → Option (StoreKey × Value)
  | .assigned key value => some (key, value)
  | .executed .. => none

def own (t : List Happening) : List (StoreKey × Value) := t.filterMap Happening.own?

mutual

/-- All assignments, those of the executions inside included, in the order in which they are made. -/
def Happening.assignments : Happening → List (StoreKey × Value)
  | .assigned key value => [(key, value)]
  | .executed _ _ inside => assignmentsOf inside

def assignmentsOf : List Happening → List (StoreKey × Value)
  | [] => []
  | first :: rest => first.assignments ++ assignmentsOf rest

end

mutual

/-- The assignments to stores of a script that count: those that an execution of the script makes itself, if
it finishes.  What the executions inside of it assign to the same stores does not count. -/
def Happening.committed (script : String) : Happening → List (StoreKey × Value)
  | .assigned .. => []
  | .executed name finished inside =>
    if finished && name == script then own inside else committedOf script inside

def committedOf (script : String) : List Happening → List (StoreKey × Value)
  | [] => []
  | first :: rest => first.committed script ++ committedOf script rest

end

/-- The value of the last assignment to a store, if there is one. -/
def latest (assignments : List (StoreKey × Value)) (key : StoreKey) : Option Value :=
  assignments.reverse.lookup key

theorem latest_append (a b : List (StoreKey × Value)) (key : StoreKey) :
    latest (a ++ b) key = (latest b key).or (latest a key) := by
  rw [latest, reverse_append, lookup_append]
  rfl

theorem latest_singleton_self (key : StoreKey) (v : Value) : latest [(key, v)] key = some v :=
  get?_cons_self key v []

theorem latest_singleton_of_ne {key key' : StoreKey} (v : Value) (h : key ≠ key') : latest [(key', v)] key = none :=
  get?_cons_of_ne [] h

theorem own_append (t u : List Happening) : own (t ++ u) = own t ++ own u := filterMap_append

theorem committedOf_append (t u : List Happening) :
    committedOf script (t ++ u) = committedOf script t ++ committedOf script u := by
  induction t with
  | nil => rfl
  | cons first rest ih => simp [committedOf, ih]

theorem committedOf_finished : committedOf name [.executed name true inside] = own inside := by
  simp [committedOf, Happening.committed]

theorem committedOf_failed : committedOf script [.executed name false inside] = committedOf script inside := by
  simp [committedOf, Happening.committed]

theorem committedOf_other {script name : String} (h : script ≠ name) (finished : Bool) (inside : List Happening) :
    committedOf script [.executed name finished inside] = committedOf script inside := by
  simp [committedOf, Happening.committed, h.symm]

def assigning (assignments : List (StoreKey × Value)) : List Happening :=
  assignments.map fun p => .assigned p.1 p.2

theorem own_assigning : own (assigning assignments) = assignments := by
  induction assignments with
  | nil => rfl
  | cons p rest ih => exact congrArg (p :: ·) ih

theorem committedOf_assigning : committedOf script (assigning assignments) = [] := by
  induction assignments with
  | nil => rfl
  | cons p rest ih => exact ih

/-! ### Traced executions -/

def Library.value (library : Library) (key : StoreKey) : Option Value :=
  (get? library key.script).bind fun entry => get? entry.stores key

/-- A library and what has happened in the execution that is running. -/
structure Traced where
  library : Library
  trace : List Happening

/-- The store that a statement has assigned that has ended in a frame, with its value. -/
def Statement.assigned (f : Frame) : Statement → List (StoreKey × Value)
  | .assign (.store name _) _ =>
    ((get? f.stores ⟨f.owner, name⟩).map (StoreKey.mk f.owner name, ·)).toList
  | _ => []

theorem Statement.execute_stores {h : Host σ} {statement : Statement} {f g : Frame} {s t : σ}
    (hr : statement.execute h f s = (.ok (output, g), t)) (key : StoreKey) :
    get? g.stores key = (latest (statement.assigned g) key).or (get? f.stores key) := by
  cases statement.ends_of_execute hr with
  | print hv | define _ _ hv => exact congrArg (get? · key) (eval_keeps hv).stores
  | @assign target e old v g _ _ _ hv =>
    have hkeep := eval_keeps hv
    cases target with
    | parameter | var => exact congrArg (get? · key) hkeep.stores
    | store name type =>
      let key' : StoreKey := ⟨f.owner, name⟩
      have hassigned : Statement.assigned (g.put v (.store key')) (.assign (.store name type) e) = [(key', v)] := by
        rw [Statement.assigned, g.owner_put, hkeep.owner, Frame.put, get?_set_self]
        rfl
      rw [Target.slot, hassigned, Frame.put]
      by_cases hkey : key = key'
      · rw [hkey, get?_set_self, latest_singleton_self, Option.some_or]
      · rw [get?_set_of_ne _ _ hkey, hkeep.stores, latest_singleton_of_ne v hkey, Option.none_or]

namespace Traced

variable {h : Host Traced} {k : Host Library} {r r' : Traced} {t : List Happening}
variable {α : Type} {u : List Happening} {entry : Entry}

def log (t : List Happening) : Act Traced Unit := modify fun r => { r with trace := r.trace ++ t }

def nest (script : String) (x : Act Traced α) : Act Traced α := fun r =>
  let (result, inner) := x ⟨r.library, []⟩
  (result, ⟨inner.library, r.trace ++ [.executed script result.isOk inner.trace]⟩)

def executeAll (h : Host Traced) (output : Option String) : List Statement → Eval Traced (Option String)
  | [] => return output
  | s :: rest => do
    h.pause
    let more ← s.execute h
    log (assigning (s.assigned (← get)))
    executeAll h (appendOutput output more) rest

def keeper (name : String) : Keeper Traced where
  read keys := return (← get).library.stored name keys
  write values := modify fun r => { r with library := r.library.commit name values }

def executeScript (h : Host Traced) (name : String) (script : Script) (arguments : List String) :
    Act Traced (Option String) := do
  if arguments.length ≠ script.parameters.length then
    throw (.argumentCount script.name script.parameters.length arguments.length)
  let stores ← (keeper name).read script.storeKeys
  let result ← (executeAll h none script.statements).run (startFrame script stores arguments)
  (keeper name).write result.2.stores
  return result.1

def call (h : Host Traced) (name : String) (arguments : List String) : Act Traced String := do
  match get? (← get).library name with
  | none => throw (.scriptMissing name)
  | some entry =>
    match ← nest name (executeScript h name entry.script arguments) with
    | some output => return output
    | none => throw (.scriptWithoutOutput name)

def execute (world : World) (entry : Entry) (arguments : List String) : Act Traced (Option String) :=
  nest entry.script.name (executeScript (hostOf world (pure ()) call) entry.script.name entry.script arguments)

/-! ### The trace does not matter -/

def erasure : Bridge Traced Library := .onto Traced.library

theorem nest_erase {x : Act Traced α} {y : Act Library α} (h : Act.Sim erasure x y) :
    Act.Sim erasure (nest script x) y := by
  refine .onto fun r => ?_
  have hrun : y r.library = ((x ⟨r.library, []⟩).1, (x ⟨r.library, []⟩).2.library) :=
    h.onto_run ⟨r.library, []⟩
  rw [hrun]
  exact ⟨rfl, rfl⟩

theorem executeAll_erase (hs : Host.Sim erasure h k) (output : Option String) (statements : List Statement) :
    Eval.Sim erasure (executeAll h output statements) (Script.executeAll k output statements) := by
  induction statements generalizing output with
  | nil => exact .pure _
  | cons statement rest ih =>
    refine .bind (.lift hs.pause) fun _ => .bind (statement_sim hs.toCallsSim statement) fun more => ?_
    -- what is added to the trace is not seen by the library
    exact fun f => ⟨fun _ hlost => hlost,
      fun r library hagree => (ih _ f).agree ⟨r.library, r.trace ++ _⟩ library hagree⟩

theorem keeper_erase : Keeper.Sim erasure (keeper name) (Library.keeper name) where
  read keys := .onto fun r => by
    rw [keeper_read]
    exact ⟨rfl, rfl⟩
  write values := .onto fun _ => ⟨rfl, rfl⟩

theorem executeScript_erase (hs : Host.Sim erasure h k) (name : String) (script : Script) (arguments : List String) :
    Act.Sim erasure (executeScript h name script arguments) (script.execute k (Library.keeper name) arguments) := by
  refine .guard ?_
  refine .bind ((keeper_erase name).read _) fun stores => ?_
  refine .bind (executeAll_erase hs none script.statements _) fun result => ?_
  exact .bind ((keeper_erase name).write _) fun _ => .pure _

theorem call_erase (hs : Host.Sim erasure h k) (name : String) (arguments : List String)
    : Act.Sim erasure (call h name arguments) (Library.call k name arguments) := by
  refine .withState (fun _ hlost => hlost.elim) fun r library hagree => ?_
  rw [show r.library = library from hagree]
  cases get? library name with
  | none => exact .throw _
  | some entry =>
    refine .bind (nest_erase _ (executeScript_erase hs name _ _)) fun output => ?_
    split
    · exact .pure _
    · exact .throw _

theorem hostWithin_erase (n : Nat) :
    Host.Sim erasure (hostWithin world (pure ()) call n) (hostWithin world (pure ()) Library.call n) := by
  induction n with
  | zero => exact ⟨⟨rfl, fun _ _ => .throw _, fun _ => .throw _⟩, .pure _⟩
  | succ n ih => exact ⟨⟨rfl, call_erase ih, executeSource_sim ih⟩, .pure _⟩

/-- **A traced execution is the plain one**, with the same result and the same library afterwards. -/
theorem execute_erase (entry : Entry) (arguments : List String) (r : Traced) :
    Library.execute world entry arguments r.library =
      ((execute world entry arguments r).1, (execute world entry arguments r).2.library) := by
  have hsim : Act.Sim erasure (execute world entry arguments) (Library.execute world entry arguments) :=
    nest_erase _ (executeScript_erase (hostWithin_erase world maxDepth) _ _ _)
  exact hsim.onto_run r

/-! ### What the trace says -/

/-- A run leads from a state with a sound library to another one.  `t` is what happens meanwhile, and the
values of stores have changed as it says. -/
structure Settled (r r' : Traced) (t : List Happening) : Prop where
  sound : r'.library.Sound
  outline : r'.library.outline = r.library.outline
  trace : r'.trace = r.trace ++ t
  values : ∀ key, r'.library.value key = (latest (committedOf key.script t) key).or (r.library.value key)

theorem Settled.refl (h : r.library.Sound) : Settled r r [] :=
  ⟨h, rfl, (append_nil _).symm, fun _ => rfl⟩

theorem Settled.trans {r₁ r₂ r₃ : Traced} (h₁₂ : Settled r₁ r₂ t) (h₂₃ : Settled r₂ r₃ u) : Settled r₁ r₃ (t ++ u) where
  sound := h₂₃.sound
  outline := h₂₃.outline.trans h₁₂.outline
  trace := by rw [h₂₃.trace, h₁₂.trace, append_assoc]
  values key := by
    rw [h₂₃.values, h₁₂.values, committedOf_append, latest_append, Option.or_assoc]

def Settles (r r' : Traced) : Prop := r.library.Sound → ∃ t, own t = [] ∧ Settled r r' t

instance : Chained Settles where
  refl _ := fun hsound => ⟨[], rfl, .refl hsound⟩
  trans h₁₂ h₂₃ := fun hsound => by
    obtain ⟨t, hownt, ht⟩ := h₁₂ hsound
    obtain ⟨u, hownu, hu⟩ := h₂₃ ht.sound
    exact ⟨t ++ u, by rw [own_append, hownt, hownu, append_nil], ht.trans hu⟩

/-- What the statements of an execution do, whose copy of the stores is in the frame. -/
structure Advances (f g : Frame) (r r' : Traced) (t : List Happening) : Prop extends
    Settled r r' t where
  stores : ∀ key, get? g.stores key = (latest (own t) key).or (get? f.stores key)

theorem Advances.trans {f₁ f₂ f₃ : Frame} {r₁ r₂ r₃ : Traced} (h₁₂ : Advances f₁ f₂ r₁ r₂ t)
    (h₂₃ : Advances f₂ f₃ r₂ r₃ u) : Advances f₁ f₃ r₁ r₃ (t ++ u) where
  toSettled := h₁₂.toSettled.trans h₂₃.toSettled
  stores key := by rw [h₂₃.stores, h₁₂.stores, own_append, latest_append, Option.or_assoc]

theorem Settled.advances (h : Settled r r' t) (hown : own t = []) (f : Frame) : Advances f f r r' t where
  toSettled := h
  stores key := by
    rw [hown]
    rfl

theorem statement_advances (hh : h.CallsKeep Settles) {statement : Statement} {f g : Frame}
    (hsound : r.library.Sound) (hr : statement.execute h f r = (.ok (output, g), r')) :
    ∃ t, Advances f g r { r' with trace := r'.trace ++ assigning (statement.assigned g) } t := by
  have hcalls := statement_keeps hh statement f r hsound
  rw [hr] at hcalls
  obtain ⟨t, hown, ht⟩ := hcalls
  refine ⟨t ++ assigning (statement.assigned g), ⟨ht.sound, ht.outline, ?_, fun key => ?_⟩, fun key => ?_⟩
  · rw [ht.trace, append_assoc]
  · rw [committedOf_append, committedOf_assigning, append_nil]
    exact ht.values key
  · rw [own_append, hown, own_assigning]
    exact Statement.execute_stores hr key

theorem executeAll_advances (hh : h.CallsKeep Settles) (hpause : h.pause = pure ()) {statements : List Statement}
    {f : Frame} {result : Except Fault (Option String × Frame)} (hsound : r.library.Sound)
    (hrun : executeAll h output statements f r = (result, r')) :
    ∃ g t, Advances f g r r' t ∧ ∀ p, result = .ok p → p.2 = g := by
  induction statements generalizing output f r with
  | nil =>
    cases hrun
    refine ⟨f, [], (Settled.refl hsound).advances rfl f, ?_⟩
    rintro p ⟨⟩
    rfl
  | cons statement rest ih =>
    have hfirst : executeAll h output (statement :: rest) f r = (statement.execute h >>= fun more => do
          log (assigning (statement.assigned (← get)))
          executeAll h (appendOutput output more) rest) f r := by
      rw [executeAll, hpause]
      rfl
    rw [hfirst, Eval.bind_run] at hrun
    rcases hone : statement.execute h f r with ⟨fault | ⟨more, f₁⟩, r₁⟩
    · -- a statement that fails assigns nothing, but scripts that it has called may have finished
      have hcalls := statement_keeps hh statement f r hsound
      rw [hone] at hrun hcalls
      cases hrun
      obtain ⟨t, hown, ht⟩ := hcalls
      exact ⟨f, t, ht.advances hown f, nofun⟩
    · rw [hone] at hrun
      obtain ⟨t, ht⟩ := statement_advances hh hsound hone
      obtain ⟨g, u, hu, hresult⟩ := ih ht.sound hrun
      exact ⟨g, t ++ u, ht.trans hu, hresult⟩

/-- How an execution ends: its arguments do not match, or one of its statements fails, or it writes back its
copy of the stores. -/
theorem executeScript_cases (h : Host Traced) (name : String) (script : Script) (arguments : List String) (r : Traced) :
    let start := startFrame script (r.library.stored name script.storeKeys) arguments
    (∃ fault, executeScript h name script arguments r = (.error fault, r)) ∨
    (∃ fault r', executeAll h none script.statements start r = (.error fault, r') ∧
      executeScript h name script arguments r = (.error fault, r')) ∨
    ∃ output g r', executeAll h none script.statements start r = (.ok (output, g), r') ∧
      executeScript h name script arguments r =
        (.ok output, { r' with library := r'.library.commit name g.stores }) := by
  intro start
  by_cases hcount : arguments.length = script.parameters.length
  · right
    have hexecute : executeScript h name script arguments r = (do
        let result ← (executeAll h none script.statements).run start
        (keeper name).write result.2.stores
        return result.1) r := by
      unfold executeScript
      rw [if_neg (not_not_intro hcount)]
      rfl
    rw [hexecute, Act.bind_run]
    dsimp only [StateT.run]
    rcases executeAll h none script.statements start r with ⟨fault | ⟨output, g⟩, r'⟩
    · exact .inl ⟨fault, r', rfl, rfl⟩
    · exact .inr ⟨output, g, r', rfl, rfl⟩
  · left
    unfold executeScript
    rw [if_pos hcount]
    exact ⟨_, rfl⟩

/-- The end of an execution.  For its stores only its own assignments count, because all of them are written
from its copy. -/
theorem Advances.commit {name : String} {arguments : List String} {g : Frame}
    (h : Advances (startFrame entry.script entry.stores arguments) g ⟨r.library, []⟩ r' t)
    (hentry : get? r.library name = some entry) (hold : entry.Sound name) (hg : g.WellFormed)
    (htypes : storeTypes g.stores = storeTypes entry.stores) :
    Settled r ⟨r'.library.commit name g.stores, r.trace ++ [.executed name true t]⟩ [.executed name true t] := by
  obtain ⟨found, hfound, -, hfoundTypes⟩ := exists_of_outline_eq h.outline hentry
  have hsame : storeTypes g.stores = storeTypes found.stores := htypes.trans hfoundTypes.symm
  have hnodup : (keys g.stores).Nodup := by
    rw [keys_eq_of_storeTypes_eq htypes, hold.keys]
    exact hold.accepted.nodup_storeKeys
  rw [commit_eq hfound (keys_eq_of_storeTypes_eq hsame) hnodup]
  obtain ⟨hsound, houtline⟩ := steady_set hfound hg.stores hsame h.sound
  refine ⟨hsound, houtline.trans h.outline, rfl, fun key => ?_⟩
  by_cases hkey : key.script = name
  · have hbefore : r.library.value key = get? entry.stores key := by
      rw [value, hkey, hentry, Option.bind_some]
    rw [value, hkey, get?_set_self, committedOf_finished, hbefore]
    exact h.stores key
  · rw [value, get?_set_of_ne _ _ hkey, committedOf_other hkey]
    exact h.values key

/-- **An execution settles**, however it ends. -/
theorem nest_settled (hh : h.CallsKeep Settles) (hpause : h.pause = pure ()) (hs : Host.Sim erasure h k) {name : String}
    (hsound : r.library.Sound) (hentry : get? r.library name = some entry) (arguments : List String) :
    let run := executeScript h name entry.script arguments ⟨r.library, []⟩
    Settled r (nest name (executeScript h name entry.script arguments) r).2
      [.executed name run.1.isOk run.2.trace] := by
  have hold : entry.Sound name := hsound name entry hentry
  have hcases := executeScript_cases h name entry.script arguments ⟨r.library, []⟩
  rw [stored_eq hentry hold] at hcases
  unfold nest
  rcases hcases with ⟨fault, hend⟩ | ⟨fault, r', hrun, hend⟩ | ⟨output, g, r', hrun, hend⟩
  · rw [hend]
    change Settled r ⟨r.library, r.trace ++ [.executed name false []]⟩ [.executed name false []]
    refine ⟨hsound, rfl, rfl, fun key => ?_⟩
    rfl
  · obtain ⟨g, t, ht, -⟩ := executeAll_advances (r := ⟨r.library, []⟩) hh hpause hsound hrun
    rw [hend]
    change Settled r ⟨r'.library, r.trace ++ [.executed name false r'.trace]⟩ [.executed name false r'.trace]
    refine ⟨ht.sound, ht.outline, rfl, fun key => ?_⟩
    rw [committedOf_failed, ht.trace]
    exact ht.values key
  · obtain ⟨g', t, ht, hlast⟩ := executeAll_advances (r := ⟨r.library, []⟩) hh hpause hsound hrun
    obtain rfl : g = g' := hlast _ rfl
    -- the plain execution has the same copy of the stores at the end, and keeps its types
    have hplain := (executeAll_erase hs none entry.script.statements
      (startFrame entry.script entry.stores arguments)).onto_run ⟨r.library, []⟩
    rw [hrun] at hplain
    obtain ⟨hg, htypes⟩ := hold.run hplain
    rw [hend, ht.trace]
    exact ht.commit hentry hold hg htypes

theorem call_state (h : Host Traced) (name : String) (arguments : List String) (r : Traced) :
    (call h name arguments r).2 = (get? r.library name).elim r
      fun entry => (nest name (executeScript h name entry.script arguments) r).2 := by
  unfold call
  rw [run_get_bind]
  cases get? r.library name with
  | none => rfl
  | some entry =>
    dsimp only [Option.elim]
    rw [Act.bind_run]
    rcases nest name (executeScript h name entry.script arguments) r with ⟨_ | _ | _, _⟩ <;> rfl

theorem call_settles (hh : h.CallsKeep Settles) (hpause : h.pause = pure ()) (hs : Host.Sim erasure h k) (name : String)
    (arguments : List String) : Along Settles (call h name arguments) := by
  intro r
  rw [call_state]
  rcases hentry : get? r.library name with _ | entry
  · exact Chained.refl r
  · exact fun hsound => ⟨_, rfl, nest_settled hh hpause hs hsound hentry arguments⟩

theorem hostWithin_pause (n : Nat) : (hostWithin world (pure ()) call n).pause = pure () := by
  cases n <;> rfl

theorem hostWithin_settles (n : Nat) : (hostWithin world (pure ()) call n).Keeps Settles := by
  induction n with
  | zero => exact ⟨⟨fun _ _ => Chained.refl, fun _ => Chained.refl⟩, Chained.refl⟩
  | succ n ih =>
    have hcall := call_settles ih.toCallsKeep (hostWithin_pause world n) (hostWithin_erase world n)
    exact ⟨⟨hcall, executeSource_keeps ih⟩, Chained.refl⟩

end Traced

namespace Library

/-- **Which assignments count.**  After any session, let a loaded script be executed, with whatever scripts it
executes in turn, directly or not.  The traced execution is the plain one, and a store of a script `A` has
afterwards the value of the last assignment that

* was made to it by an execution of `A` that has finished,
* which was not inside of another execution of `A` that has finished.

If there was none, it has the value that it had before. -/
theorem value_of_execute (steps : List Step) (world : World) {name : String} {entry : Entry}
    (loaded : Dict.get? (after steps) name = some entry) (arguments : List String) :
    let traced := Traced.execute world entry arguments ⟨after steps, []⟩
    execute world entry arguments (after steps) = (traced.1, traced.2.library) ∧
    ∀ key, traced.2.library.value key =
      (latest (committedOf key.script traced.2.trace) key).or ((after steps).value key) := by
  intro traced
  refine ⟨Traced.execute_erase world entry arguments ⟨after steps, []⟩, fun key => ?_⟩
  have hsound : (after steps).Sound := after_sound steps
  have hentry : Dict.get? (after steps) entry.script.name = some entry := by
    rw [(hsound name entry loaded).named]
    exact loaded
  have hsettled := Traced.nest_settled (r := ⟨after steps, []⟩)
    (Traced.hostWithin_settles world maxDepth).toCallsKeep (Traced.hostWithin_pause world maxDepth)
    (Traced.hostWithin_erase world maxDepth) hsound hentry arguments
  have htrace : traced.2.trace = _ := hsettled.trace
  rw [htrace]
  exact hsettled.values key

/-- A script that assigns its argument to a store and then calls itself once. -/
def selfCalling : Script where
  name := "!a"
  stores := [⟨"x", .stringLiteral "v"⟩]
  parameters := ["p"]
  statements := [.assign (.store "x" .string) (.parameter "p"),
    .print (.ternary (.binary (.parameter "p") .equal (.stringLiteral "in")) (.stringLiteral "done")
      (.call (.stringLiteral "!a") [.stringLiteral "in"]) .string)]

def selfCallingSession : List Step :=
  [.load .still "!a"
    "STORE x = 'v'; PARAMS p; x = p; PRINT p == 'in' ? 'done' : '!a'('in');"]

def selfCallingEntry : Entry := ⟨selfCalling, [(⟨"!a", "x"⟩, .string "v")]⟩

set_option maxRecDepth 1024 in
theorem after_selfCallingSession : after selfCallingSession = [("!a", selfCallingEntry)] := by
  have hsource : ofSource "!a" "STORE x = 'v'; PARAMS p; x = p; PRINT p == 'in' ? 'done' : '!a'('in');" =
      .ok selfCalling := by cbv
  rw [selfCallingSession, after, foldl_cons, afterStep, hsource]
  rfl

/-- The outer execution assigns `out` and then the inner one `in`. -/
theorem execute_selfCalling : Traced.execute .still selfCallingEntry ["out"] ⟨after selfCallingSession, []⟩ =
      (.ok (some "done"), ⟨[("!a", ⟨selfCalling, [(⟨"!a", "x"⟩, .string "out")]⟩)],
        [.executed "!a" true [.assigned ⟨"!a", "x"⟩ (.string "out"),
          .executed "!a" true [.assigned ⟨"!a", "x"⟩ (.string "in")]]]⟩) := by
  rw [after_selfCallingSession]
  rfl

/-- The assignment of the outer execution counts. -/
theorem value_of_execute_selfCalling : Dict.get? (after selfCallingSession) "!a" = some selfCallingEntry ∧
    (Traced.execute .still selfCallingEntry ["out"] ⟨after selfCallingSession, []⟩).2.library.value
      ⟨"!a", "x"⟩ = some (.string "out") := by
  have hloaded := congrArg (Dict.get? · "!a") after_selfCallingSession
  refine ⟨hloaded, ?_⟩
  rw [(value_of_execute selfCallingSession .still hloaded ["out"]).2, execute_selfCalling]
  rfl

/-- An assignment can be lost: after an execution with a result, inside of which the script was executed
again, a store of the script does not have the value of the last assignment to it. -/
theorem exists_lost_assignment :
    ∃ (steps : List Step) (name : String) (entry : Entry) (arguments : List String) (output : String)
      (key : StoreKey) (v : Value),
      Dict.get? (after steps) name = some entry ∧
      let traced := Traced.execute .still entry arguments ⟨after steps, []⟩
      execute .still entry arguments (after steps) = (.ok (some output), traced.2.library) ∧
      (∃ t u, traced.2.trace = [.executed name true (t ++ [.executed name true u])]) ∧
      latest (assignmentsOf traced.2.trace) key = some v ∧ traced.2.library.value key ≠ some v := by
  refine ⟨selfCallingSession, "!a", selfCallingEntry, ["out"], "done", ⟨"!a", "x"⟩, .string "in",
    congrArg (Dict.get? · "!a") after_selfCallingSession, ?_⟩
  have herase := Traced.execute_erase .still selfCallingEntry ["out"] ⟨after selfCallingSession, []⟩
  rw [execute_selfCalling] at herase ⊢
  refine ⟨herase, ⟨[.assigned ⟨"!a", "x"⟩ (.string "out")], _, rfl⟩, rfl, ?_⟩
  change some (Value.string "out") ≠ some (.string "in")
  simp

end Library

end StreamBot.Script
