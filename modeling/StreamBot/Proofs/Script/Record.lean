import StreamBot.Proofs.Script.Session

/-! # Records of executions

To say which scripts an execution of a script executes in turn, which stores they read and write, and in
which order, the library is put beside a list of events.  A recorded execution is an execution on a host that
writes down an event

* when a script or code begins and when it has ended, and whether it has ended with a result,
* before each statement,
* when the stores of a script are read or written.

Nothing else changes: a recorded execution has the result of the plain one and does the same to the library
(`execute_erase`).

What records look like is said by `Shape`, a grammar of lists of events, and what a run does to a library can
be read off its record: it is what the writings in it do (`execute_leads`).
-/

namespace StreamBot.Script

open List

variable {name : String} {t : List Event} {values : Dict StoreKey Value} {r r' : Recorded}
variable (world : World)

inductive Event where
  | began (script : String)
  | read (script : String) (keys : List StoreKey)
  | statement
  | wrote (script : String) (values : Dict StoreKey Value)
  | ended (script : String) (finished : Bool)
  | beganCode
  | endedCode (finished : Bool)

structure Recorded where
  library : Library
  events : List Event

namespace Recorded

variable {α : Type}

def note (event : Event) (r : Recorded) : Recorded := { r with events := r.events ++ [event] }

def log (event : Event) : Act Recorded Unit := modify (note event)

/-- Writes down how something begins and how it ends. -/
def between (start : Event) (stop : Bool → Event) (x : Act Recorded α) : Act Recorded α := fun r =>
  let (result, r) := x (note start r)
  (result, note (stop result.isOk) r)

/-- Keeps the stores of one script, and writes down what is read and written. -/
def keeper (name : String) : Keeper Recorded where
  read keys := do
    log (.read name keys)
    return (← get).library.stored name keys
  write values := do
    modify fun r => { r with library := r.library.commit name values }
    log (.wrote name values)

def call (h : Host Recorded) (name : String) (arguments : List String) : Act Recorded String := do
  match Dict.get? (← get).library name with
  | none => throw (.scriptMissing name)
  | some entry =>
    match ← between (.began name) (.ended name) (entry.script.execute h (keeper name) arguments) with
    | some output => return output
    | none => throw (.scriptWithoutOutput name)

/-- The host that allows a number of scripts to wait for each other. -/
def hostWithin (world : World) : Nat → Host Recorded
  | 0 => ⟨world, fun _ _ => throw .tooDeep, fun _ => throw .tooDeep, log .statement⟩
  | n + 1 =>
    let h := hostWithin world n
    ⟨world, call h, fun code => between .beganCode .endedCode (executeSource h code), log .statement⟩

def execute (world : World) (entry : Entry) (arguments : List String) : Act Recorded (Option String) :=
  between (.began entry.script.name) (.ended entry.script.name)
    (entry.script.execute (hostWithin world maxDepth) (keeper entry.script.name) arguments)

/-! ### The record does not matter -/

def erasure : Bridge Recorded Library where
  agree r library := r.library = library
  lost _ := False

theorem log_erase (event : Event) : Act.Sim erasure (log event) (pure ()) := .onto fun _ => ⟨rfl, rfl⟩

theorem between_erase (start : Event) (stop : Bool → Event) {x : Act Recorded α} {y : Act Library α}
    (h : Act.Sim erasure x y) : Act.Sim erasure (between start stop x) y := by
  refine .onto fun r => ?_
  have hrun : y r.library = ((x (note start r)).1, (x (note start r)).2.library) :=
    h.onto_run (note start r)
  rw [hrun]
  exact ⟨rfl, rfl⟩

theorem keeper_erase (name : String) : Keeper.Sim erasure (keeper name) (Library.keeper name) where
  read keys := .onto fun r => by
    rw [Library.keeper_read]
    exact ⟨rfl, rfl⟩
  write values := .onto fun _ => ⟨rfl, rfl⟩

theorem call_erase {h : Host Recorded} {k : Host Library} (hs : Host.Sim erasure h k) (name : String)
    (arguments : List String) : Act.Sim erasure (call h name arguments) (Library.call k name arguments) := by
  refine .withState (fun _ hlost => hlost.elim) fun r library hagree => ?_
  rw [show r.library = library from hagree]
  cases Dict.get? library name with
  | none => exact .throw _
  | some entry =>
    refine .bind (between_erase _ _ (execute_sim hs (keeper_erase name) _ _)) fun output => ?_
    split
    · exact .pure _
    · exact .throw _

theorem hostWithin_erase (n : Nat) :
    Host.Sim erasure (hostWithin world n) (Script.hostWithin world (pure ()) Library.call n) := by
  induction n with
  | zero => exact ⟨⟨rfl, fun _ _ => .throw _, fun _ => .throw _⟩, log_erase _⟩
  | succ n ih =>
    have code := fun source => between_erase .beganCode .endedCode (executeSource_sim ih source)
    exact ⟨⟨rfl, call_erase ih, code⟩, log_erase _⟩

/-- **A recorded execution is the plain one**, with the same result and the same library afterwards. -/
theorem execute_erase (entry : Entry) (arguments : List String) (r : Recorded) :
    Library.execute world entry arguments r.library =
      ((execute world entry arguments r).1, (execute world entry arguments r).2.library) := by
  have hsim : Act.Sim erasure (execute world entry arguments) (Library.execute world entry arguments) :=
    between_erase _ _ (execute_sim (hostWithin_erase world maxDepth) (keeper_erase _) _ _)
  exact hsim.onto_run r

end Recorded

/-! ### What records look like -/

inductive Part where
  /-- The scripts and the code that are executed while an expression is evaluated. -/
  | calls
  /-- A number of statements that have begun, one after the other. -/
  | statements (count : Nat)
  | execution (script : String) (finished : Bool)

/-- The events of a part.  A finished execution has come to the end of its last statement, and then it has
written its stores.  One that has failed has written nothing: its arguments did not match, or it stopped in
the last of the statements that have begun. -/
inductive Shape (scripts : String → Option Script) : Part → List Event → Prop where
  | noCall : Shape scripts .calls []
  | call {name : String} {finished : Bool} {t u : List Event} (before : Shape scripts .calls t)
      (one : Shape scripts (.execution name finished) u) : Shape scripts .calls (t ++ u)
  | code {count : Nat} {finished : Bool} {t u : List Event} (before : Shape scripts .calls t)
      (inside : Shape scripts (.statements count) u) :
      Shape scripts .calls (t ++ (.beganCode :: (u ++ [.endedCode finished])))
  | noStatement : Shape scripts (.statements 0) []
  | statement {count : Nat} {t u : List Event} (before : Shape scripts (.statements count) t)
      (inside : Shape scripts .calls u) :
      Shape scripts (.statements (count + 1)) (t ++ (.statement :: u))
  | mismatch {name : String} : Shape scripts (.execution name false) [.began name, .ended name false]
  | failed {name : String} {script : Script} {count : Nat} {t : List Event}
      (executed : scripts name = some script) (begun : 0 < count)
      (bound : count ≤ script.statements.length) (inside : Shape scripts (.statements count) t) :
      Shape scripts (.execution name false) (.began name :: .read name script.storeKeys :: (t ++ [.ended name false]))
  | finished {name : String} {script : Script} {values : Dict StoreKey Value} {t : List Event}
      (executed : scripts name = some script)
      (inside : Shape scripts (.statements script.statements.length) t) :
      Shape scripts (.execution name true) (.began name :: .read name script.storeKeys ::
          (t ++ [.wrote name values, .ended name true]))

section

variable {scripts : String → Option Script} {part : Part}

theorem Shape.append {scripts : String → Option Script} {u : List Event}
    (ht : Shape scripts .calls t) (hu : Shape scripts .calls u) : Shape scripts .calls (t ++ u) := by
  -- the induction is on the calls that come last
  generalize hpart : Part.calls = part at hu
  induction hu with
  | noCall =>
    rw [append_nil]
    exact ht
  | call _ one ih =>
    rw [← append_assoc]
    exact .call (ih hpart) one
  | code _ inside ih =>
    rw [← append_assoc]
    exact .code (ih hpart) inside
  | _ => cases hpart

theorem Shape.began {finished : Bool} (h : Shape scripts (.execution name finished) t) : .began name ∈ t := by
  cases h <;> exact mem_cons_self

/-- A writing of a script stands at the end of an execution that has come to its end. -/
def Committed (scripts : String → Option Script) (name : String) (values : Dict StoreKey Value) (t : List Event) : Prop :=
  ∃ u, u ++ [.wrote name values, .ended name true] <:+: t ∧
    Shape scripts (.execution name true) (u ++ [.wrote name values, .ended name true])

theorem Committed.mono {t' : List Event} (h : Committed scripts name values t)
    (ht : t <:+: t') : Committed scripts name values t' := by
  obtain ⟨u, hinfix, hu⟩ := h
  exact ⟨u, hinfix.trans ht, hu⟩

theorem Shape.committed (h : Shape scripts part t)
    (hwrote : .wrote name values ∈ t) : Committed scripts name values t := by
  -- a part of a part is a part, so only the last case has an execution to offer
  induction h with
  | noCall | noStatement => cases hwrote
  | mismatch => simp at hwrote
  | call _ _ ih ihOne =>
    rcases mem_append.mp hwrote with hwrote | hwrote
    · exact (ih hwrote).mono (prefix_append _ _).isInfix
    · exact (ihOne hwrote).mono (suffix_append _ _).isInfix
  | @code _ finished before inside _ _ ih ihInside =>
    simp only [mem_append, mem_cons, reduceCtorEq, not_mem_nil, or_false, false_or] at hwrote
    rcases hwrote with hwrote | hwrote
    · exact (ih hwrote).mono (prefix_append _ _).isInfix
    · exact (ihInside hwrote).mono ⟨before ++ [.beganCode], [.endedCode finished], by simp⟩
  | @statement _ before inside _ _ ih ihInside =>
    simp only [mem_append, mem_cons, reduceCtorEq, false_or] at hwrote
    rcases hwrote with hwrote | hwrote
    · exact (ih hwrote).mono (prefix_append _ _).isInfix
    · exact (ihInside hwrote).mono ⟨before ++ [.statement], [], by simp⟩
  | @failed n script _ inside _ _ _ _ ih =>
    simp only [mem_append, mem_cons, reduceCtorEq, not_mem_nil, or_false, false_or] at hwrote
    exact (ih hwrote).mono ⟨[.began n, .read n script.storeKeys], [.ended n false], by simp⟩
  | @finished n script written inside executed hinside ih =>
    simp only [mem_append, mem_cons, reduceCtorEq, not_mem_nil, or_false, false_or, Event.wrote.injEq] at hwrote
    rcases hwrote with hwrote | ⟨rfl, rfl⟩
    · exact (ih hwrote).mono
        ⟨[.began n, .read n script.storeKeys], [.wrote n written, .ended n true], by simp⟩
    · exact ⟨.began name :: .read name script.storeKeys :: inside, infix_rfl, .finished executed hinside⟩

theorem Shape.began_of_wrote (h : Shape scripts part t) (hwrote : .wrote name values ∈ t) : .began name ∈ t := by
  obtain ⟨u, hinfix, hu⟩ := h.committed hwrote
  exact hinfix.subset hu.began

end

def Event.apply (library : Library) : Event → Library
  | .wrote name values => library.commit name values
  | _ => library

def replay (events : List Event) (library : Library) : Library := events.foldl Event.apply library

theorem replay_append (t u : List Event) (library : Library) : replay (t ++ u) library = replay u (replay t library) :=
  foldl_append

theorem scripts_replay (events : List Event) (library : Library) : (replay events library).scripts = library.scripts := by
  induction events generalizing library with
  | nil => rfl
  | cons event rest ih =>
    have hevent : (Event.apply library event).scripts = library.scripts := by
      cases event with
      | wrote name values => exact library.scripts_commit name values
      | _ => rfl
    exact (ih _).trans hevent

theorem get?_replay {events : List Event} (h : ∀ values, .wrote name values ∉ events)
    (library : Library) : Dict.get? (replay events library) name = Dict.get? library name := by
  induction events generalizing library with
  | nil => rfl
  | cons event rest ih =>
    have hevent : Dict.get? (Event.apply library event) name = Dict.get? library name := by
      cases event with
      | wrote other values =>
        refine library.get?_commit_of_ne values fun hother => h values ?_
        rw [hother]
        exact mem_cons_self
      | _ => rfl
    exact (ih (fun values hmem => h values (mem_cons_of_mem _ hmem)) _).trans hevent

namespace Recorded

variable {h : Host Recorded} {count : Nat}

/-- A part of a run leads from one state to another one: the events of the part are added, and the library
has changed as they say. -/
def Leads (part : Part) (r r' : Recorded) : Prop :=
  ∃ t, Shape r.library.scripts part t ∧ r'.events = r.events ++ t ∧ r'.library = replay t r.library

theorem Leads.scripts {part : Part} (h : Leads part r r') : r'.library.scripts = r.library.scripts := by
  obtain ⟨t, -, -, hlibrary⟩ := h
  rw [hlibrary, scripts_replay]

instance : Chained (Leads .calls) where
  refl r := ⟨[], .noCall, (append_nil _).symm, rfl⟩
  trans := by
    intro r₁ r₂ r₃ h₁₂ h₂₃
    have hscripts := h₁₂.scripts
    obtain ⟨t, ht, hevents₂, hlibrary₂⟩ := h₁₂
    obtain ⟨u, hu, hevents₃, hlibrary₃⟩ := h₂₃
    refine ⟨t ++ u, ht.append (hscripts ▸ hu), ?_, ?_⟩
    · rw [hevents₃, hevents₂, append_assoc]
    · rw [hlibrary₃, hlibrary₂, replay_append]

theorem Leads.statement {r'' : Recorded} (h : Leads (.statements count) r r')
    (hcalls : Leads .calls (note .statement r') r'') : Leads (.statements (count + 1)) r r'' := by
  have hscripts : (note .statement r').library.scripts = r.library.scripts := h.scripts
  obtain ⟨t, ht, hevents', hlibrary'⟩ := h
  obtain ⟨u, hu, hevents'', hlibrary''⟩ := hcalls
  refine ⟨t ++ .statement :: u, .statement ht (hscripts ▸ hu), ?_, ?_⟩
  · rw [hevents'', note, hevents']
    simp
  · rw [hlibrary'', note, hlibrary', replay_append]
    rfl

theorem keeper_read (name : String) (keys : List StoreKey) (r : Recorded) :
    (keeper name).read keys r = (.ok (r.library.stored name keys), note (.read name keys) r) := rfl

theorem keeper_write (name : String) (values : Dict StoreKey Value) (r : Recorded) : (keeper name).write values r =
      (.ok (), note (.wrote name values) { r with library := r.library.commit name values }) := rfl

theorem keeper_neverFails (name : String) : (keeper name).NeverFails where
  read keys r := ⟨_, _, keeper_read name keys r⟩
  write values r := ⟨_, keeper_write name values r⟩

theorem Leads.call {finished : Bool} (h : Leads (.execution name finished) r r') : Leads .calls r r' := by
  obtain ⟨t, ht, hevents, hlibrary⟩ := h
  exact ⟨t, .call .noCall ht, hevents, hlibrary⟩

theorem call_run (h : Host Recorded) (name : String) (arguments : List String) (r : Recorded) :
    call h name arguments r = (match r.library.scripts name with
        | none => throw (.scriptMissing name)
        | some script => do
          match ← between (.began name) (.ended name) (script.execute h (keeper name) arguments) with
          | some output => return output
          | none => throw (.scriptWithoutOutput name) : Act Recorded String) r := by
  change (match Dict.get? r.library name with
    | none => throw (.scriptMissing name)
    | some entry => do
      match ← between (.began name) (.ended name) (entry.script.execute h (keeper name) arguments) with
      | some output => return output
      | none => throw (.scriptWithoutOutput name) : Act Recorded String) r = _
  unfold Library.scripts
  cases Dict.get? r.library name <;> rfl

theorem call_state (h : Host Recorded) (name : String) (arguments : List String) (r : Recorded) :
    (call h name arguments r).2 = match r.library.scripts name with
      | none => r
      | some script =>
        (between (.began name) (.ended name) (script.execute h (keeper name) arguments) r).2 := by
  rw [call_run]
  cases r.library.scripts name with
  | none => rfl
  | some script =>
    dsimp only
    rw [Act.bind_run]
    rcases between (.began name) (.ended name) (script.execute h (keeper name) arguments) r with
      ⟨_ | _ | _, _⟩ <;> rfl

section Hosts

variable (hcalls : h.CallsKeep (Leads .calls)) (hpause : h.pause = log .statement)
include hcalls hpause

/-- Statements that start where some have been executed already: all of them begin if there is a result, and
one of them fails otherwise. -/
theorem executeAll_leads {last : Recorded} {statements : List Statement} {output : Option String} {f : Frame}
    {result : Except Fault (Option String × Frame)} (hbefore : Leads (.statements count) r r')
    (hrun : executeAll h output statements f r' = (result, last)) :
    ∃ begun ≤ statements.length, Leads (.statements (count + begun)) r last ∧
      (result.isOk → begun = statements.length) ∧ (result.isOk = false → 0 < begun) := by
  -- what has begun before is counted in `hbefore`, so it grows along the induction
  induction statements generalizing count r' output f with
  | nil =>
    cases hrun
    exact ⟨0, Nat.le_refl 0, hbefore, fun _ => rfl, nofun⟩
  | cons statement rest ih =>
    have hfirst : executeAll h output (statement :: rest) f r' =
        (statement.execute h >>= fun more => executeAll h (appendOutput output more) rest) f (note .statement r') := by
      rw [executeAll, Eval.bind_run, hpause]
      rfl
    have hstatement : Leads (.statements (count + 1)) r (statement.execute h f (note .statement r')).2 :=
      hbefore.statement (statement_keeps hcalls statement f _)
    rw [hfirst, Eval.bind_run] at hrun
    rcases hone : statement.execute h f (note .statement r') with ⟨fault | ⟨more, g⟩, next⟩
    · rw [hone] at hrun hstatement
      cases hrun
      exact ⟨1, by simp, hstatement, nofun, fun _ => Nat.one_pos⟩
    · rw [hone] at hrun hstatement
      obtain ⟨begun, hbound, hleads, hall, -⟩ := ih hstatement hrun
      refine ⟨begun + 1, Nat.succ_le_succ hbound, ?_, fun hok => ?_, fun _ => Nat.succ_pos begun⟩
      · rwa [Nat.add_assoc, Nat.add_comm 1] at hleads
      · rw [hall hok, length_cons]

theorem execution_leads {script : Script}
    (hscript : r.library.scripts name = some script) (arguments : List String) :
    let run := between (.began name) (.ended name) (script.execute h (keeper name) arguments) r
    Leads (.execution name run.1.isOk) r run.2 := by
  -- the statements start when the script has begun and its stores are read
  let start : Recorded := note (.read name script.storeKeys) (note (.began name) r)
  have hstart : Leads (.statements 0) start start := ⟨[], .noStatement, by simp, rfl⟩
  have houtcome :=
    execute_outcome (keeper_neverFails name) h script arguments (note (.began name) r)
  unfold between
  generalize script.execute h (keeper name) arguments (note (.began name) r) = ended at houtcome ⊢
  cases houtcome with
  | mismatch =>
    refine ⟨_, .mismatch, ?_, rfl⟩
    exact append_assoc r.events [.began name] [.ended name false]
  | failed read run =>
    obtain ⟨-, rfl⟩ := Prod.mk.inj ((keeper_read name _ _).symm.trans read)
    obtain ⟨begun, hbound, ⟨t, ht, hevents, hlibrary⟩, -, hpos⟩ :=
      executeAll_leads hcalls hpause hstart run
    rw [Nat.zero_add] at ht
    refine ⟨_, .failed hscript (hpos rfl) hbound ht, ?_, ?_⟩
    · simp [note, hevents, start, Except.isOk, Except.toBool]
    · exact hlibrary.trans (replay_append t [.ended name false] r.library).symm
  | @finished _ _ g _ _ _ read run write =>
    obtain ⟨-, rfl⟩ := Prod.mk.inj ((keeper_read name _ _).symm.trans read)
    obtain ⟨-, rfl⟩ := Prod.mk.inj ((keeper_write name _ _).symm.trans write)
    obtain ⟨begun, -, ⟨t, ht, hevents, hlibrary⟩, hall, -⟩ :=
      executeAll_leads hcalls hpause hstart run
    rw [Nat.zero_add, hall rfl] at ht
    have hshape : Shape r.library.scripts (.execution name true) (.began name ::
        .read name script.storeKeys :: (t ++ [.wrote name g.stores, .ended name true])) :=
      .finished hscript ht
    refine ⟨_, hshape, ?_, ?_⟩
    · simp [note, hevents, start, Except.isOk, Except.toBool]
    · refine Eq.trans ?_ (replay_append t [.wrote name g.stores, .ended name true] r.library).symm
      exact congrArg (Library.commit name g.stores) hlibrary

theorem call_leads (name : String) (arguments : List String) :
    Along (Leads .calls) (call h name arguments) := by
  intro r
  rw [call_state]
  rcases hscript : r.library.scripts name with _ | script
  · exact Chained.refl r
  · exact (execution_leads hcalls hpause hscript arguments).call

theorem executeSource_leads (code : String) (r : Recorded) :
    ∃ count, Leads (.statements count) r (executeSource h code r).2 := by
  have hstart : Leads (.statements 0) r r := ⟨[], .noStatement, by simp, rfl⟩
  rcases executeSource_state h code r with hstate | ⟨script, hstate⟩
  · exact ⟨0, hstate.symm ▸ hstart⟩
  · rw [hstate]
    have houtcome := execute_outcome Keeper.nothing_neverFails h script [] r
    rcases hrun : script.execute h .nothing [] r with ⟨result, last⟩
    rw [hrun] at houtcome
    cases houtcome with
    | mismatch => exact ⟨0, hstart⟩
    | failed read run =>
      cases read
      obtain ⟨begun, -, hleads, -⟩ := executeAll_leads hcalls hpause hstart run
      exact ⟨_, hleads⟩
    | finished read run write =>
      cases read
      cases write
      obtain ⟨begun, -, hleads, -⟩ := executeAll_leads hcalls hpause hstart run
      exact ⟨_, hleads⟩

theorem evaluate_leads (code : String) :
    Along (Leads .calls) (between .beganCode .endedCode (executeSource h code)) := by
  intro r
  obtain ⟨count, t, ht, hevents, hlibrary⟩ :=
    executeSource_leads hcalls hpause code (note .beganCode r)
  let finished : Bool := (executeSource h code (note .beganCode r)).1.isOk
  have hshape : Shape r.library.scripts .calls (.beganCode :: (t ++ [.endedCode finished])) :=
    .code .noCall ht
  refine ⟨_, hshape, ?_, ?_⟩
  · change (executeSource h code (note .beganCode r)).2.events ++ [.endedCode finished] = _
    rw [hevents]
    simp [note]
  · exact hlibrary.trans (replay_append t [.endedCode finished] r.library).symm

end Hosts

theorem hostWithin_pause (n : Nat) : (hostWithin world n).pause = log .statement := by
  cases n <;> rfl

theorem hostWithin_leads (n : Nat) : (hostWithin world n).CallsKeep (Leads .calls) := by
  induction n with
  | zero => exact ⟨fun _ _ => Chained.refl, fun _ => Chained.refl⟩
  | succ n ih =>
    have hpause := hostWithin_pause world n
    exact ⟨call_leads ih hpause, evaluate_leads ih hpause⟩

/-- **An execution can be read off its record.**  The events are those of one execution, it has finished
exactly if there is a result, and the library has changed as the events say. -/
theorem execute_leads {entry : Entry} (arguments : List String)
    (hentry : Dict.get? r.library entry.script.name = some entry) :
    Leads (.execution entry.script.name (execute world entry arguments r).1.isOk) r
      (execute world entry arguments r).2 := by
  have hscript : r.library.scripts entry.script.name = some entry.script := by
    rw [Library.scripts, hentry, Option.map_some]
  exact execution_leads (hostWithin_leads world maxDepth) (hostWithin_pause world maxDepth) hscript _

end Recorded

end StreamBot.Script
