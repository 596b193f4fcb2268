import StreamBot.Proofs.Script.Record
import StreamBot.Proofs.Script.StoreTyping

/-! # Scripts do not see each other's stores

An execution of a script reads the stores that the script declares and writes these and no others
(`Event.Own`).  It follows that an execution leaves alone what belongs to scripts that it does not execute,
and that it does not depend on it either: two executions that start with the same values of the scripts that
the first one executes do the same (`execute_agree`).

For the second part two recorded states are compared on the scripts that have been seen (`agreement`).  A run
that begins to execute another script is lost, so nothing has to be shown about it from there on.

An execution writes its stores behind its last statement.  One that fails, in whatever part of whatever
statement, has written nothing by then; what other executions have written that it has called and that have
finished stays.  In the record of a run, each writing therefore stands at the end of a finished execution
(`Shape.committed`), and a run that fails without calling another script changes nothing (`replay_failed`).
-/

namespace StreamBot.Script

open List Library

variable {r : Recorded} {h : Host Recorded} {name : String} {entry : Entry}
variable (world : World) (arguments : List String)

/-- Only stores that a script declares are read and written on its behalf. -/
def Event.Own (scripts : String → Option Script) : Event → Prop
  | .read name keys =>
    ∃ script, scripts name = some script ∧ keys = script.stores.map fun s => ⟨name, s.name⟩
  | .wrote name values =>
    ∃ script, scripts name = some script ∧ Dict.keys values = script.stores.map fun s => ⟨name, s.name⟩
  | _ => True

namespace Recorded

/-! ### Own stores -/

/-- What executions do to a recorded state whose library is sound: the library stays sound, and on behalf of
each script only its own stores are read and written. -/
def Owns (r r' : Recorded) : Prop :=
  r.library.Steady r'.library ∧
    (r.library.Sound → ∃ t, r'.events = r.events ++ t ∧ ∀ event ∈ t, event.Own r.library.scripts)

theorem scripts_of_outline_eq {before after : Library} (h : after.outline = before.outline) :
    after.scripts = before.scripts := by
  have hscripts : ∀ library : Library, library.scripts = fun name => (library.outline name).map Prod.fst := by
    intro library
    funext name
    rw [outline, Option.map_map]
    rfl
  rw [hscripts, hscripts, h]

instance : Chained Owns where
  refl r := ⟨Chained.refl r.library, fun _ => ⟨[], by simp, nofun⟩⟩
  trans := by
    intro r₁ r₂ r₃ h₁₂ h₂₃
    refine ⟨Chained.trans h₁₂.1 h₂₃.1, fun hsound => ?_⟩
    -- the second part of the run has the scripts of the first one, so it has the same own stores
    obtain ⟨hsound₂, houtline⟩ := h₁₂.1 hsound
    obtain ⟨t, ht, hown⟩ := h₁₂.2 hsound
    obtain ⟨u, hu, hown'⟩ := h₂₃.2 hsound₂
    rw [scripts_of_outline_eq houtline] at hown'
    refine ⟨t ++ u, by rw [hu, ht, append_assoc], fun event hevent => ?_⟩
    exact (mem_append.mp hevent).elim (hown event) (hown' event)

theorem note_owns {event : Event} (h : r.library.Sound → event.Own r.library.scripts) : Owns r (note event r) := by
  refine ⟨Chained.refl r.library, fun hsound => ⟨[event], rfl, ?_⟩⟩
  intro e he
  obtain rfl := mem_singleton.mp he
  exact h hsound

theorem between_owns {α : Type} {start : Event} {stop : Bool → Event} {x : Act Recorded α}
    (hstart : start.Own r.library.scripts) (hstop : ∀ b scripts, (stop b).Own scripts)
    (h : Owns (note start r) (x (note start r)).2) : Owns r (between start stop x r).2 :=
  Chained.trans (note_owns fun _ => hstart) (Chained.trans h (note_owns fun _ => hstop _ _))

/-- **An execution reads and writes its own stores.**  What it does to the library is what the plain execution
does. -/
theorem execute_owns (hh : h.Keeps Owns) {k : Host Library} (hs : Host.Sim erasure h k) (hk : k.Keeps Steady)
    (hentry : Dict.get? r.library name = some entry) (arguments : List String) :
    Owns r (entry.script.execute h (keeper name) arguments r).2 := by
  constructor
  · have hplain := (execute_sim hs (keeper_erase name) entry.script arguments).onto_run r
    have hsteady := execute_steady hk hentry arguments
    rw [hplain] at hsteady
    exact hsteady
  · intro hsound
    have hold : entry.Sound name := hsound name entry hentry
    have hscript : r.library.scripts name = some entry.script := by
      rw [scripts, hentry, Option.map_some]
    have hkeys : entry.script.storeKeys = entry.script.stores.map fun s => ⟨name, s.name⟩ := by
      rw [storeKeys, hold.named]
    have hread : Owns r (note (.read name entry.script.storeKeys) r) :=
      note_owns fun _ => ⟨entry.script, hscript, hkeys⟩
    have hstatements : ∀ stores, Owns (note (.read name entry.script.storeKeys) r)
        (executeAll h none entry.script.statements (startFrame entry.script stores arguments)
          (note (.read name entry.script.storeKeys) r)).2 :=
      fun stores => executeAll_keeps hh none _ _ _
    rcases hresult : entry.script.execute h (keeper name) arguments r with ⟨result, last⟩
    have houtcome := execute_outcome (keeper_neverFails name) h entry.script arguments r
    rw [hresult] at houtcome
    cases houtcome with
    | mismatch => exact ⟨[], by simp, by simp⟩
    | @failed stores _ _ _ read run =>
      obtain ⟨-, rfl⟩ := Prod.mk.inj ((keeper_read name _ _).symm.trans read)
      have howns := Chained.trans hread (hstatements stores)
      rw [run] at howns
      exact howns.2 hsound
    | @finished stores _ g _ u _ read run write =>
      obtain ⟨hstores, rfl⟩ := Prod.mk.inj ((keeper_read name _ _).symm.trans read)
      obtain ⟨-, rfl⟩ := Prod.mk.inj ((keeper_write name _ _).symm.trans write)
      have howns := Chained.trans hread (hstatements stores)
      rw [run] at howns
      obtain ⟨t, ht, hown⟩ := howns.2 hsound
      obtain rfl : entry.stores = stores :=
        (stored_eq hentry hold).symm.trans (Except.ok.inj hstores)
      -- statements keep the keys of the working copies, and these are the declared ones
      have hwritten : Dict.keys g.stores = entry.script.stores.map fun s => ⟨name, s.name⟩ := by
        rw [keys_eq_of_storeTypes_eq (hold.run run).2, hold.keys, hkeys]
      refine ⟨t ++ [.wrote name g.stores], ?_, fun event hevent => ?_⟩
      · rw [← append_assoc, ← ht]
        rfl
      · rcases mem_append.mp hevent with hevent | hevent
        · exact hown event hevent
        · obtain rfl := mem_singleton.mp hevent
          exact ⟨entry.script, hscript, hwritten⟩

theorem call_owns (hh : h.Keeps Owns) {k : Host Library} (hs : Host.Sim erasure h k) (hk : k.Keeps Steady)
    (name : String) (arguments : List String) : Along Owns (call h name arguments) := by
  intro r
  rw [call_state, scripts]
  rcases hentry : Dict.get? r.library name with _ | entry
  · exact Chained.refl r
  · exact between_owns trivial (fun _ _ => trivial) (execute_owns (r := note (.began name) r) hh hs hk hentry arguments)

theorem hostWithin_owns (n : Nat) : (hostWithin world n).Keeps Owns := by
  have hpause : Along Owns (log .statement) := fun r => note_owns fun _ => trivial
  induction n with
  | zero => exact ⟨⟨fun _ _ => Chained.refl, fun _ => Chained.refl⟩, hpause⟩
  | succ n ih =>
    have hcode : ∀ source, Along Owns (between .beganCode .endedCode (executeSource (hostWithin world n) source)) :=
      fun source r => between_owns trivial (fun _ _ => trivial) (executeSource_keeps ih source _)
    exact ⟨⟨call_owns ih (hostWithin_erase world n) (hostWithin_steady world n), hcode⟩, hpause⟩

/-- In an execution that starts with a sound library, all stores that are read and written are own ones. -/
theorem own_of_execute {library : Library} (hsound : library.Sound)
    (hentry : Dict.get? library entry.script.name = some entry) :
    ∀ event ∈ (execute world entry arguments ⟨library, []⟩).2.events, event.Own library.scripts := by
  let start : Recorded := note (.began entry.script.name) ⟨library, []⟩
  have hexecute : Owns start (entry.script.execute (hostWithin world maxDepth)
      (keeper entry.script.name) arguments start).2 :=
    execute_owns (hostWithin_owns world maxDepth) (hostWithin_erase world maxDepth)
      (hostWithin_steady world maxDepth) hentry arguments
  have howns : Owns ⟨library, []⟩ (execute world entry arguments ⟨library, []⟩).2 :=
    between_owns trivial (fun _ _ => trivial) hexecute
  obtain ⟨t, ht, hown⟩ := howns.2 hsound
  rw [ht]
  exact hown

/-! ### Two runs -/

/-- Recorded states that differ only in the stores of scripts that have not been seen.  A run is lost when
it begins to execute one of these. -/
def agreement (seen : String → Prop) : Bridge Recorded Recorded where
  agree r r' := r.events = r'.events ∧ r.library.scripts = r'.library.scripts ∧
    ∀ name, seen name → Dict.get? r.library name = Dict.get? r'.library name
  lost r := ∃ name, .began name ∈ r.events ∧ ¬seen name

variable {seen : String → Prop} {r' : Recorded}

theorem lost_of_append {t : List Event} (h : (agreement seen).lost r) (hevents : r'.events = r.events ++ t)
    : (agreement seen).lost r' := by
  obtain ⟨name, hbegan, hname⟩ := h
  exact ⟨name, hevents ▸ mem_append_left t hbegan, hname⟩

theorem note_agree (event : Event) (h : (agreement seen).agree r r') :
    (agreement seen).agree (note event r) (note event r') :=
  ⟨congrArg (· ++ [event]) h.1, h.2⟩

theorem log_agree (event : Event) : Act.Sim (agreement seen) (log event) (log event) :=
  ⟨fun _ hlost => lost_of_append hlost rfl, fun _ _ h => .inr ⟨rfl, note_agree event h⟩⟩

theorem between_agree {α : Type} (start : Event) (stop : Bool → Event) {x y : Act Recorded α}
    (h : Act.Sim (agreement seen) x y) :
    Act.Sim (agreement seen) (between start stop x) (between start stop y) := by
  refine ⟨fun r hlost => ?_, fun r r' hagree => ?_⟩
  · have hstart : (agreement seen).lost (note start r) := lost_of_append hlost rfl
    exact lost_of_append (h.lost _ hstart) rfl
  · rcases h.agree _ _ (note_agree start hagree) with hlost | ⟨hsame, hafter⟩
    · exact .inl (lost_of_append hlost rfl)
    · refine .inr ⟨hsame, ?_⟩
      change (agreement seen).agree (note (stop (x (note start r)).1.isOk) _) (note (stop (y (note start r')).1.isOk) _)
      rw [hsame]
      exact note_agree _ hafter

theorem keeper_agree (hname : seen name) : Keeper.Sim (agreement seen) (keeper name) (keeper name) where
  read keys := by
    refine ⟨fun _ hlost => lost_of_append hlost rfl, fun r r' hagree => .inr ⟨?_, ?_⟩⟩
    · rw [keeper_read, keeper_read, stored, stored, hagree.2.2 name hname]
    · exact note_agree _ hagree
  write values := by
    refine ⟨fun _ hlost => lost_of_append hlost rfl, fun r r' hagree => .inr ⟨rfl, ?_⟩⟩
    refine note_agree _ ⟨hagree.1, ?_, fun other hother => ?_⟩
    · rw [scripts_commit, scripts_commit, hagree.2.1]
    · exact get?_commit_congr values (hagree.2.2 name hname) (hagree.2.2 other hother)

theorem call_agree (hs : Host.Sim (agreement seen) h h) (hcalls : h.CallsKeep (Leads .calls))
    (hpause : h.pause = log .statement) (name : String) (arguments : List String) :
    Act.Sim (agreement seen) (call h name arguments) (call h name arguments) := by
  refine ⟨fun r hlost => ?_, fun r r' hagree => ?_⟩
  · obtain ⟨t, -, hevents, -⟩ := call_leads hcalls hpause name arguments r
    exact lost_of_append hlost hevents
  · rcases hscript : r.library.scripts name with _ | script
    · rw [call_run, call_run, ← hagree.2.1, hscript]
      exact .inr ⟨rfl, hagree⟩
    · by_cases hname : seen name
      · rw [call_run, call_run, ← hagree.2.1, hscript]
        refine Act.Sim.agree (.bind (between_agree _ _ (execute_sim hs (keeper_agree hname) _ _))
          fun output => ?_) r r' hagree
        split
        · exact .pure _
        · exact .throw _
      · -- the first event of the execution shows that the run is lost
        obtain ⟨t, ht, hevents, -⟩ := execution_leads hcalls hpause hscript arguments
        refine .inl ⟨name, ?_, hname⟩
        rw [call_state, hscript]
        exact hevents ▸ mem_append_right _ ht.began

theorem hostWithin_agree (n : Nat) : Host.Sim (agreement seen) (hostWithin world n) (hostWithin world n) := by
  induction n with
  | zero => exact ⟨⟨rfl, fun _ _ => .throw _, fun _ => .throw _⟩, log_agree _⟩
  | succ n ih =>
    have hcode := fun source => between_agree .beganCode .endedCode (executeSource_sim ih source)
    have hcall := call_agree ih (hostWithin_leads world n) (hostWithin_pause world n)
    exact ⟨⟨rfl, hcall, hcode⟩, log_agree _⟩

/-- **An execution does not depend on scripts that it does not execute.** -/
theorem execute_agree (entry : Entry) (arguments : List String) (hname : seen entry.script.name) :
    Act.Sim (agreement seen) (execute world entry arguments) (execute world entry arguments) :=
  between_agree _ _ (execute_sim (hostWithin_agree world maxDepth) (keeper_agree hname) _ _)

theorem execute_unseen {library : Library} (hentry : Dict.get? library entry.script.name = some entry)
    (hname : .began name ∉ (execute world entry arguments ⟨library, []⟩).2.events) :
    Dict.get? (execute world entry arguments ⟨library, []⟩).2.library name = Dict.get? library name := by
  obtain ⟨t, ht, hevents, hlibrary⟩ := execute_leads (r := ⟨library, []⟩) world arguments hentry
  rw [hlibrary]
  rw [hevents] at hname
  exact get?_replay (fun values hwrote => hname (ht.began_of_wrote hwrote)) library

end Recorded

namespace Library

/-- **Scripts are isolated.**  In an execution of a script, which may execute other scripts and code in turn:

* on behalf of each script only stores that it declares are read and written,
* the stores of scripts that are not executed stay as they are,
* an execution in another state of the library, in which the scripts that are executed have the same stores,
  has the same result and makes the same changes. -/
theorem execute_isolated (world : World) (steps : List Step) {name : String} {entry : Entry}
    (loaded : Dict.get? (after steps) name = some entry) (arguments : List String) :
    let library := after steps
    let run := Recorded.execute world entry arguments ⟨library, []⟩
    let executed := fun n => .began n ∈ run.2.events
    execute world entry arguments library = (run.1, run.2.library) ∧
    (∀ event ∈ run.2.events, event.Own library.scripts) ∧
    (∀ n, ¬executed n → Dict.get? run.2.library n = Dict.get? library n) ∧
    ∀ other : Library, other.scripts = library.scripts → (∀ n, executed n → Dict.get? other n = Dict.get? library n) →
      (execute world entry arguments other).1 = run.1 ∧
      ∀ n, (executed n → Dict.get? (execute world entry arguments other).2 n = Dict.get? run.2.library n) ∧
        (¬executed n → Dict.get? (execute world entry arguments other).2 n = Dict.get? other n) := by
  intro library run executed
  have hsound : library.Sound := after_sound steps
  obtain rfl : entry.script.name = name := (hsound name entry loaded).named
  obtain ⟨t, ht, hevents, -⟩ := Recorded.execute_leads (r := ⟨library, []⟩) world arguments loaded
  have hself : executed entry.script.name := by
    change .began _ ∈ run.2.events
    rw [hevents]
    exact ht.began
  refine ⟨Recorded.execute_erase world entry arguments ⟨library, []⟩,
    Recorded.own_of_execute world arguments hsound loaded,
    fun n hn => Recorded.execute_unseen world arguments loaded hn, fun other hscripts hstores => ?_⟩
  let run' := Recorded.execute world entry arguments ⟨other, []⟩
  have hother : execute world entry arguments other = (run'.1, run'.2.library) :=
    Recorded.execute_erase world entry arguments ⟨other, []⟩
  have hagree : (Recorded.agreement executed).agree ⟨library, []⟩ ⟨other, []⟩ :=
    ⟨rfl, hscripts.symm, fun n hn => (hstores n hn).symm⟩
  rcases (Recorded.execute_agree world entry arguments hself).agree _ _ hagree with
    hlost | ⟨hsame, hevents', -, hlibrary⟩
  · -- a lost run has begun a script that is not among those it has begun
    obtain ⟨n, hbegan, hn⟩ := hlost
    exact (hn hbegan).elim
  · rw [hother]
    refine ⟨hsame.symm, fun n => ⟨fun hn => (hlibrary n hn).symm, fun hn => ?_⟩⟩
    -- the other run has the same record, so it has not begun `n` either
    refine Recorded.execute_unseen world arguments ((hstores _ hself).trans loaded) ?_
    rw [← hevents']
    exact hn

def printing (name : String) : Script :=
  ⟨name, [⟨"x", .stringLiteral "v"⟩], [], [.print (.store "x" .string)]⟩

def asking : Script := ⟨"!a", [], [], [.print (.call (.stringLiteral "!b") [])]⟩

def threeScripts : List Step :=
  [.load .still "!a" "PRINT '!b'();", .load .still "!b" "STORE x = 'v'; PRINT x;",
    .load .still "!c" "STORE x = 'v'; PRINT x;"]

def threeEntries (v : Value) : Library :=
  [("!a", ⟨asking, []⟩), ("!b", ⟨printing "!b", [(⟨"!b", "x"⟩, .string "v")]⟩),
    ("!c", ⟨printing "!c", [(⟨"!c", "x"⟩, v)]⟩)]

theorem after_threeScripts : after threeScripts = threeEntries (.string "v") := by
  have ha : ofSource "!a" "PRINT '!b'();" = .ok asking := by cbv
  have hb : ofSource "!b" "STORE x = 'v'; PRINT x;" = .ok (printing "!b") := by cbv
  have hc : ofSource "!c" "STORE x = 'v'; PRINT x;" = .ok (printing "!c") := by cbv
  simp only [threeScripts, after, foldl_cons, foldl_nil, afterStep, ha, hb, hc]
  rfl

/-- What the third script has in its store does not matter to the first one. -/
theorem execute_isolated_threeScripts : Dict.get? (after threeScripts) "!a" = some ⟨asking, []⟩ ∧
      (execute .still ⟨asking, []⟩ [] (threeEntries (.string "w"))).1 = .ok (some "v") ∧
      Dict.get? (execute .still ⟨asking, []⟩ [] (threeEntries (.string "w"))).2 "!c" =
        some ⟨printing "!c", [(⟨"!c", "x"⟩, .string "w")]⟩ := by
  have hloaded : Dict.get? (after threeScripts) "!a" = some ⟨asking, []⟩ :=
    congrArg (Dict.get? · "!a") after_threeScripts
  obtain ⟨-, -, -, htwo⟩ := execute_isolated .still threeScripts hloaded []
  rw [after_threeScripts] at htwo
  have hothers : ∀ n ≠ "!c", Dict.get? (threeEntries (.string "w")) n = Dict.get? (threeEntries (.string "v")) n :=
    fun n hn => Dict.get?_set_of_ne (threeEntries (.string "v")) _ hn
  have hscripts : (threeEntries (.string "w")).scripts = (threeEntries (.string "v")).scripts := by
    funext n
    by_cases hn : n = "!c"
    · rw [hn]
      rfl
    · rw [scripts, scripts, hothers n hn]
  have hevents : (Recorded.execute .still ⟨asking, []⟩ [] ⟨threeEntries (.string "v"), []⟩).2.events =
      [.began "!a", .read "!a" [], .statement, .began "!b", .read "!b" [⟨"!b", "x"⟩], .statement,
        .wrote "!b" [(⟨"!b", "x"⟩, .string "v")], .ended "!b" true, .wrote "!a" [],
        .ended "!a" true] := rfl
  rw [hevents] at htwo
  obtain ⟨hresult, hstores⟩ := htwo _ hscripts fun n hn => hothers n fun hc => by simp [hc] at hn
  exact ⟨hloaded, hresult, (hstores "!c").2 (by simp)⟩

end Library

/-! ### Failed executions -/

variable {scripts : String → Option Script} {t : List Event}

theorem replay_eq_self (h : ∀ name values, .wrote name values ∉ t)
    (library : Library) : replay t library = library := by
  induction t with
  | nil => rfl
  | cons event rest ih =>
    have hevent : Event.apply library event = library := by
      cases event with
      | wrote name values => exact (h name values mem_cons_self).elim
      | _ => rfl
    rw [replay, foldl_cons, hevent]
    exact ih fun name values hmem => h name values (mem_cons_of_mem _ hmem)

theorem replay_failed {name : String}
    (h : Shape scripts (.execution name false) t) (hcalls : ∀ other, .began other ∉ t.tail)
    (library : Library) : replay t library = library := by
  refine replay_eq_self (fun other values hwrote => ?_) library
  cases h with
  | mismatch => simp at hwrote
  | failed _ _ _ inside =>
    simp only [mem_append, mem_cons, reduceCtorEq, not_mem_nil, or_false, false_or] at hwrote
    refine hcalls other (mem_cons_of_mem _ (mem_append_left _ ?_))
    exact inside.began_of_wrote hwrote

namespace Library

/-- **Failed executions write nothing.**  In an execution, with any scripts and any values in the stores:

* the record is that of an execution that has finished exactly if there is a result.  By its shape one that
  fails, at whatever depth, has no writing of its own,
* what has changed is what the writings in the record say, and each of them is the end of an execution, maybe
  a nested one, that has come to the end of all its statements,
* if the execution fails and has executed no other script, nothing has changed at all. -/
theorem execute_commits (world : World) (library : Library) {entry : Entry}
    (loaded : Dict.get? library entry.script.name = some entry) (arguments : List String) :
    let run := Recorded.execute world entry arguments ⟨library, []⟩
    execute world entry arguments library = (run.1, run.2.library) ∧
    Shape library.scripts (.execution entry.script.name run.1.isOk) run.2.events ∧
    run.2.library = replay run.2.events library ∧
    (∀ name values, .wrote name values ∈ run.2.events →
      ∃ u, u ++ [.wrote name values, .ended name true] <:+: run.2.events ∧
        Shape library.scripts (.execution name true) (u ++ [.wrote name values, .ended name true])) ∧
    (run.1.isOk = false → (∀ name, .began name ∉ run.2.events.tail) →
      (execute world entry arguments library).2 = library) := by
  intro run
  have herase : execute world entry arguments library = (run.1, run.2.library) :=
    Recorded.execute_erase world entry arguments ⟨library, []⟩
  obtain ⟨t, ht, hevents, hlibrary⟩ :=
    Recorded.execute_leads (r := ⟨library, []⟩) world arguments loaded
  obtain rfl : run.2.events = t := hevents
  refine ⟨herase, ht, hlibrary, fun name values hwrote => ht.committed hwrote, fun hfailed hcalls => ?_⟩
  have hshape : Shape library.scripts (.execution entry.script.name false) run.2.events :=
    hfailed ▸ ht
  rw [herase]
  exact hlibrary.trans (replay_failed hshape hcalls library)

/-- A script that assigns to its store and then reads a parameter that it does not have. -/
def faltering : Script :=
  ⟨"!a", [⟨"x", .stringLiteral "v"⟩], [], [.assign (.store "x" .string) (.stringLiteral "w"), .print (.parameter "p")]⟩

/-- The assignment of the script that fails afterwards is not kept. -/
theorem execute_commits_faltering : let entry : Entry := ⟨faltering, [(⟨"!a", "x"⟩, .string "v")]⟩
    (execute .still entry [] [("!a", entry)]).1 = .error (.parameterMissing "p") ∧
      (execute .still entry [] [("!a", entry)]).2 = [("!a", entry)] := by
  intro entry
  have hloaded : Dict.get? [("!a", entry)] entry.script.name = some entry := rfl
  obtain ⟨-, -, -, -, hfailed⟩ := execute_commits .still [("!a", entry)] hloaded []
  have hevents : (Recorded.execute .still entry [] ⟨[("!a", entry)], []⟩).2.events =
      [.began "!a", .read "!a" [⟨"!a", "x"⟩], .statement, .statement, .ended "!a" false] := rfl
  rw [hevents] at hfailed
  exact ⟨rfl, hfailed rfl (by simp)⟩

end Library

end StreamBot.Script
