import StreamBot.Proofs.Script.Session
import StreamBot.Proofs.Script.Soundness

/-! # The types of stores

An assignment to a store compares the type of the value that is there with the type of the new expression, so
by type soundness the types of stores never change once they have their first values.  Statements keep the
types of the working copies (`AcceptedStatement.ends`); an execution writes back copies of the
types that it has read, even if other executions of the same script have written in between
(`Library.execute_steady`); so every session keeps them (`Library.after_sound`).

The first value of a store has the type of its initialiser if the initialiser has one.  Nothing asks for that
when a script is read: `STORE x = false and 1;` is accepted although its operator takes no number.  Such a
store has a well-formed value of some type all the same.
-/

namespace StreamBot.Script

open List Dict Dict

variable {f g : Frame} {output : Option String} {script : Script} {name : String} {entry : Entry} {library : Library}
  {values known : Dict StoreKey Value}
variable {σ : Type} {stores : Dict StoreKey Value} {h : Host σ}

def storeTypes (stores : Dict StoreKey Value) : Dict StoreKey DataType :=
  stores.map fun p => (p.1, p.2.dataType)

theorem keys_storeTypes (stores : Dict StoreKey Value) : Dict.keys (storeTypes stores) = Dict.keys stores := by
  simp [storeTypes, Dict.keys]

theorem keys_eq_of_storeTypes_eq {a b : Dict StoreKey Value} (h : storeTypes a = storeTypes b) :
    keys a = keys b := by
  rw [← keys_storeTypes, h, keys_storeTypes]

theorem get?_storeTypes (stores : Dict StoreKey Value) (key : StoreKey) :
    get? (storeTypes stores) key = (get? stores key).map Value.dataType :=
  get?_map Value.dataType stores key

theorem storeTypes_set {key : StoreKey} {old new : Value}
    (hold : get? stores key = some old) (htype : new.dataType = old.dataType) :
    storeTypes (set stores key new) = storeTypes stores := by
  have hkey : get? (storeTypes stores) key = some new.dataType := by
    rw [get?_storeTypes, hold, htype]
    rfl
  calc storeTypes (set stores key new)
      = set (storeTypes stores) key new.dataType := map_set Value.dataType stores key new
    _ = storeTypes stores := set_of_get? hkey

/-! ### Statements -/

/-- `g` comes from `f` by executing statements: the stores have kept their types. -/
structure Frame.Follows (g f : Frame) : Prop where
  callStack : g.callStack = f.callStack
  types : storeTypes g.stores = storeTypes f.stores

theorem Frame.Follows.trans {k : Frame} (hk : k.Follows g) (hg : g.Follows f) : k.Follows f :=
  ⟨hk.callStack.trans hg.callStack, hk.types.trans hg.types⟩

theorem Frame.Extends.follows (h : g.Extends f) : g.Follows f :=
  ⟨h.callStack, congrArg storeTypes h.stores⟩

section Statements

variable {terms : Terms} {h : Host σ} {scope behind : Scope}

theorem Frame.Meets.admits {type : DataType} (hf : f.Meets terms) (hname : (name, type) ∈ terms.known) :
    terms.Admits name type := by
  intro hstrict t hmem
  obtain ⟨v, hv, rfl⟩ := hf.holds hstrict _ hmem
  obtain ⟨w, hw, rfl⟩ := hf.holds hstrict _ hname
  rw [Option.some.inj (hv.symm.trans hw)]

theorem assignedValue_gives {e : Expr} (hpart : (e.eval h).Gives terms (Fits e.dataType)) (kind : NameKind) (old : Value) :
    (assignedValue h kind name old e).Gives terms fun v => Fits e.dataType v ∧ v.dataType = old.dataType := by
  refine .bind (.typeOf _) fun type htype => .same rfl fun hsame => hpart.mono fun v hv => ⟨hv, ?_⟩
  rw [hv.2 type htype, hsame]

/-- **A statement keeps the types of stores**, and it does not fail in reading variables.  After it the variables in scope
have values of their types. -/
theorem AcceptedStatement.ends {statement : Statement} (ha : AcceptedStatement scope statement behind)
    (hs : ∀ e ∈ statement.expressions, terms.Suit h scope e) (hf : f.Meets terms) (s : σ) :
    ∃ later : Terms, later.avoided = terms.avoided ∧ later.known = {x | x ∈ behind.bindings} ∧
      Ends terms.avoided (fun _ g => g.Meets later ∧ g.Follows f) (statement.execute h f s) := by
  cases ha with
  | print part =>
    have hsuit := hs _ (.head _)
    exact ⟨terms, rfl, hsuit.known, (part.gives h hsuit f s hf).bind fun _ _ _ hg => ⟨hg.2.1, hg.2.2.follows⟩⟩
  | @assign _ target e resolved part valueType =>
    have hsuit := hs e (.tail _ (.head _))
    refine ⟨terms, rfl, hsuit.known, ?_⟩
    obtain ⟨kind, name, fault, hfault, -, hrun⟩ := assign_run h target e f s
    rw [hrun]
    cases hold : f.value? (target.slot f.owner) with
    | none => exact terms.not_mem hfault
    | some old =>
      refine (assignedValue_gives (part.gives h hsuit) kind old f s hf).bind fun v g _ hends => ?_
      obtain ⟨⟨hv, hsame⟩, hg, hkeep⟩ := hends
      cases target with
      | store =>
        exact ⟨⟨⟨wellFormed_of_mem_set hg.stores hv.1, hg.parameters, hg.bindings⟩, hg.holds⟩, hkeep.callStack,
          (storeTypes_set (hkeep.stores ▸ hold) hsame).trans hkeep.follows.types⟩
      | parameter =>
        exact ⟨⟨⟨hg.stores, wellFormed_of_mem_set hg.parameters hv.1, hg.bindings⟩, hg.holds⟩, hkeep.callStack,
          hkeep.follows.types⟩
      | var name type =>
        have hknown : (name, type) ∈ terms.known := hsuit.known ▸ Scope.mem_of_resolve resolved
        exact ⟨(hg.set (hv.imp_right fun htype => htype type valueType) (hg.admits hknown)).unbind, hkeep.callStack,
          hkeep.follows.types⟩
  | @define name type e fresh part valueType =>
    have hsuit := hs e (.head _)
    refine ⟨terms.bind name type, rfl, (hsuit.bind name type).known, ?_⟩
    rw [define_run h valueType]
    split
    · exact terms.not_mem rfl
    · refine (part.gives h hsuit f s hf).bind fun v g _ hends => ?_
      obtain ⟨hv, hg, hkeep⟩ := hends
      exact ⟨hg.set (hv.imp_right fun htype => htype type valueType) (hsuit.admits fresh), hkeep.callStack,
        hkeep.follows.types⟩

theorem AcceptedStatements.executeAll_ends {statements : List Statement} (ha : AcceptedStatements scope statements)
    (hknown : terms.known = {x | x ∈ scope.bindings}) (hh : ∀ fault ∈ terms.avoided, h.Avoids fault)
    (hconsistent : terms.avoided.Nonempty →
      ∀ statement ∈ statements, ∀ e ∈ statement.expressions, ∀ d : Expr, d.Occurs e → d.Consistent)
    (hf : f.Meets terms) (output : Option String) (s : σ) :
    Ends terms.avoided (fun _ g => g.WellFormed ∧ g.Follows f) (executeAll h output statements f s) := by
  induction ha generalizing terms f output s with
  | none => exact ⟨hf.toWellFormed, (Frame.Extends.refl f).follows⟩
  | @next scope behind statement rest first others ih =>
    have hpause := Eval.Gives.lift h.pause (fun fault hfault => (hh fault hfault).pause) f s hf
    refine hpause.bind fun _ f₁ s₁ hpaused => ?_
    obtain ⟨-, hf₁, hkeep⟩ := hpaused
    obtain ⟨later, havoided, hlater, hends⟩ :=
      first.ends (fun e he => ⟨hknown, hh, fun hstrict => hconsistent hstrict _ (.head _) e he⟩) hf₁ s₁
    refine hends.bind fun more f₂ s₂ hstatement => ?_
    obtain ⟨hf₂, hfollows⟩ := hstatement
    have hrest := ih hlater (havoided ▸ hh)
      (fun hstrict other hother => hconsistent (havoided ▸ hstrict) other (.tail _ hother)) hf₂ (appendOutput output more) s₂
    rw [havoided] at hrest
    exact hrest.imp fun _ g hg => ⟨hg.1, (hg.2.trans hfollows).trans hkeep.follows⟩

end Statements

theorem bindParameters_wellFormed (names arguments : List String) :
    ∀ p ∈ bindParameters names arguments, p.2.WellFormed := by
  have fold : ∀ (pairs : List (String × String)) (d : Dict String Value), (∀ p ∈ d, p.2.WellFormed) →
      ∀ p ∈ pairs.foldl (fun d p => Dict.set d p.1 (.string p.2)) d, p.2.WellFormed := by
    intro pairs
    induction pairs with
    | nil => exact fun _ hd => hd
    | cons pair rest ih => exact fun d hd => ih _ (wellFormed_of_mem_set hd trivial)
  exact fold _ [] nofun

theorem AcceptedScript.executeAll_ends (ha : AcceptedScript script)
    (hstores : ∀ p ∈ stores, p.2.WellFormed) (arguments : List String) (avoided : Set Fault)
    (havoided : ∀ fault ∈ avoided, fault.ofVariable) (hh : ∀ fault ∈ avoided, h.Avoids fault)
    (hconsistent : avoided.Nonempty → ∀ e : Expr, script.Contains e → e.Consistent) (s : σ) :
    Ends avoided (fun _ g => g.WellFormed ∧ g.Follows (startFrame script stores arguments))
      (executeAll h none script.statements (startFrame script stores arguments) s) := by
  have hstart : (startFrame script stores arguments).Meets ⟨∅, avoided, havoided⟩ :=
    ⟨⟨hstores, bindParameters_wellFormed _ _, nofun⟩, fun _ _ => nofun⟩
  refine ha.statements.executeAll_ends (by simp) hh (fun hstrict statement hstatement e he d hd => ?_) hstart none s
  exact hconsistent hstrict d (.inr ⟨statement, hstatement, e, he, hd⟩)

theorem AcceptedScript.nodup_storeKeys (ha : AcceptedScript script) : script.storeKeys.Nodup := by
  have hkeys : script.storeKeys = (script.stores.map (·.name)).map (StoreKey.mk script.name) := by
    simp [storeKeys]
  rw [hkeys]
  refine List.Pairwise.map _ (fun a b hne heq => hne ?_) ha.stores.nodup
  exact congrArg StoreKey.name heq

/-! ### Executions in a library -/

/-- An entry of a library: its script is accepted and has its name, and its stores are those that the script
declares, with well-formed values of the types of their initialisers. -/
structure Entry.Sound (name : String) (entry : Entry) : Prop where
  named : entry.script.name = name
  accepted : AcceptedScript entry.script
  keys : keys entry.stores = entry.script.storeKeys
  wellFormed : ∀ p ∈ entry.stores, p.2.WellFormed
  types : ∀ s ∈ entry.script.stores, ∀ type, s.value.dataType = .ok type →
    get? (storeTypes entry.stores) ⟨name, s.name⟩ = some type

theorem Entry.Sound.run (hentry : entry.Sound name) {arguments : List String} {s t : σ}
    (hr : executeAll h none entry.script.statements (startFrame entry.script entry.stores arguments) s = (.ok (output, g), t)) :
    g.WellFormed ∧ storeTypes g.stores = storeTypes entry.stores := by
  have hends := hentry.accepted.executeAll_ends hentry.wellFormed arguments ∅ nofun (h := h) nofun nofun s
  rw [hr] at hends
  exact ⟨hends.1, hends.2.types⟩

namespace Library

def Sound (library : Library) : Prop :=
  ∀ name entry, get? library name = some entry → entry.Sound name

def outline (library : Library) (name : String) : Option (Script × Dict StoreKey DataType) :=
  (get? library name).map fun entry => (entry.script, storeTypes entry.stores)

/-- What executions do to a sound library: it stays sound, and only values change. -/
def Steady (before after : Library) : Prop :=
  before.Sound → after.Sound ∧ after.outline = before.outline

instance : Chained Steady where
  refl _ := fun h => ⟨h, rfl⟩
  trans hst htu := fun hs => by
    obtain ⟨ht, hoff⟩ := hst hs
    obtain ⟨hu, hon⟩ := htu ht
    exact ⟨hu, hon.trans hoff⟩

theorem steady_set (hentry : get? library name = some entry) (hwell : ∀ p ∈ values, p.2.WellFormed)
    (htypes : storeTypes values = storeTypes entry.stores) :
    library.Steady (set library name { entry with stores := values }) := by
  intro hsound
  have hold : entry.Sound name := hsound name entry hentry
  refine ⟨fun other found hfound => ?_, funext fun other => ?_⟩
  · by_cases hother : other = name
    · subst hother
      rw [get?_set_self] at hfound
      obtain rfl := Option.some.inj hfound
      refine ⟨hold.named, hold.accepted, ?_, hwell, fun s hs type htype => ?_⟩
      · rw [keys_eq_of_storeTypes_eq htypes, hold.keys]
      · rw [htypes]
        exact hold.types s hs type htype
    · rw [get?_set_of_ne _ _ hother] at hfound
      exact hsound other found hfound
  · unfold outline
    by_cases hother : other = name
    · subst hother
      rw [get?_set_self, hentry, Option.map_some, Option.map_some, htypes]
    · rw [get?_set_of_ne _ _ hother]

theorem exists_of_outline_eq {before after : Library} (h : after.outline = before.outline)
    (hentry : get? before name = some entry) :
    ∃ found, get? after name = some found ∧ found.script = entry.script ∧
      storeTypes found.stores = storeTypes entry.stores := by
  have hname : after.outline name = some (entry.script, storeTypes entry.stores) := by
    rw [h, outline, hentry, Option.map_some]
  obtain ⟨found, hfound, hpair⟩ := Option.map_eq_some_iff.mp hname
  obtain ⟨hscript, htypes⟩ := Prod.mk.inj hpair
  exact ⟨found, hfound, hscript, htypes⟩

theorem stored_eq (hentry : get? library name = some entry) (hsound : entry.Sound name) :
    stored name entry.script.storeKeys library = entry.stores := by
  unfold stored
  rw [hentry, ← hsound.keys]
  refine filter_eq_self.mpr fun p hp => ?_
  exact contains_iff_mem.mpr (mem_map.mpr ⟨p, hp, rfl⟩)

theorem commit_eq (hentry : get? library name = some entry) (hkeys : keys values = keys entry.stores)
    (hnodup : (keys values).Nodup) :
    commit name values library = set library name { entry with stores := values } := by
  unfold commit
  rw [hentry]
  dsimp only
  rw [foldl_set_of_keys_eq hkeys hnodup]

/-- **An execution of a script keeps the library sound**, however it ends.  The entry may have got new values
from other executions of the script since it was read, but not other types. -/
theorem execute_steady {h : Host Library} (hh : h.Keeps Steady) (hentry : get? library name = some entry)
    (arguments : List String) : library.Steady (entry.script.execute h (keeper name) arguments library).2 := by
  intro hsound
  have hold : entry.Sound name := hsound name entry hentry
  have hread : (keeper name).read entry.script.storeKeys library = (.ok entry.stores, library) := by
    rw [keeper_read, stored_eq hentry hold]
  have hrun : ∀ stores, library.Steady (executeAll h none entry.script.statements
      (startFrame entry.script stores arguments) library).2 :=
    fun stores => executeAll_keeps hh none _ _ library
  rcases hresult : entry.script.execute h (keeper name) arguments library with ⟨result, last⟩
  have houtcome := execute_outcome (keeper_neverFails name) h entry.script arguments library
  rw [hresult] at houtcome
  cases houtcome with
  | mismatch => exact ⟨hsound, rfl⟩
  | failed read run =>
    cases hread.symm.trans read
    have hsteady := hrun entry.stores hsound
    rwa [run] at hsteady
  | @finished _ output g _ between _ read run write =>
    cases hread.symm.trans read
    obtain rfl := (Prod.mk.inj ((keeper_write name g.stores between).symm.trans write)).2
    have hsteady : library.Steady between := by
      have hsteady := hrun entry.stores
      rwa [run] at hsteady
    -- the entry that is written to is the one that is there by now, not the one that was read
    obtain ⟨-, houtline⟩ := hsteady hsound
    obtain ⟨found, hfound, -, htypes⟩ := exists_of_outline_eq houtline hentry
    obtain ⟨hg, hrunTypes⟩ := hold.run run
    have hsame : storeTypes g.stores = storeTypes found.stores := hrunTypes.trans htypes.symm
    have hkeys : keys g.stores = keys found.stores := keys_eq_of_storeTypes_eq hsame
    have hnodup : (keys g.stores).Nodup := by
      rw [keys_eq_of_storeTypes_eq hrunTypes, hold.keys]
      exact hold.accepted.nodup_storeKeys
    rw [commit_eq hfound hkeys hnodup]
    exact Chained.trans hsteady (steady_set hfound hg.stores hsame) hsound

theorem call_steady {h : Host Library} (hh : h.Keeps Steady) (name : String) (arguments : List String) :
    Along Steady (call h name arguments) := by
  intro library
  rw [call_state]
  rcases hentry : get? library name with _ | entry
  · exact Chained.refl library
  · exact execute_steady hh hentry arguments

theorem hostWithin_steady (world : World) (n : Nat) : (hostWithin world (pure ()) call n).Keeps Steady :=
  hostWithin_keeps (fun library => Chained.refl library) (fun _ hh => call_steady hh) n

end Library

/-! ### First values -/

/-- Values that begin with known ones, followed by a first value for each of some stores. -/
structure FirstValues (script : String) (known : Dict StoreKey Value) (stores : List Store)
    (values : Dict StoreKey Value) : Prop where
  keys : Dict.keys values = Dict.keys known ++ stores.map fun s => ⟨script, s.name⟩
  wellFormed : ∀ p ∈ values, p.2.WellFormed
  kept : ∀ key ∈ Dict.keys known, Dict.get? values key = Dict.get? known key
  types : ∀ s ∈ stores, ∀ type, s.value.dataType = .ok type → Dict.get? (storeTypes values) ⟨script, s.name⟩ = some type

theorem fresh_set {script : String} {store : Store} {rest : List Store} (hnew : ⟨script, store.name⟩ ∉ keys known)
    (hfresh : ∀ other ∈ rest, ⟨script, other.name⟩ ∉ keys known) (hname : store.name ∉ rest.map (·.name)) (v : Value) :
    ∀ other ∈ rest, ⟨script, other.name⟩ ∉ keys (set known ⟨script, store.name⟩ v) := by
  intro other hother hmem
  rw [keys_set_of_not_mem v hnew] at hmem
  rcases mem_append.mp hmem with hmem | hmem
  · exact hfresh other hother hmem
  · have heq : other.name = store.name := congrArg StoreKey.name (mem_singleton.mp hmem)
    exact hname (mem_map.mpr ⟨other, hother, heq⟩)

theorem initialStores_first (h : Host σ) {script : String} {stores : List Store} {s t : σ}
    (ha : ∀ store ∈ stores, ∃ scope, Accepted scope store.value) (hnodup : (stores.map (·.name)).Nodup)
    (hfresh : ∀ store ∈ stores, ⟨script, store.name⟩ ∉ Dict.keys known) (hknown : ∀ p ∈ known, p.2.WellFormed)
    (hr : initialStores h script known stores s = (.ok values, t)) : FirstValues script known stores values := by
  -- the initialisers before have become known values, so the induction is over all of these
  induction stores generalizing known s with
  | nil =>
    cases hr
    exact ⟨by simp, hknown, fun _ _ => rfl, nofun⟩
  | cons store rest ih =>
    obtain ⟨⟨scope, haccepted⟩, hrest⟩ := forall_mem_cons.mp ha
    obtain ⟨hnew, hfresh⟩ := forall_mem_cons.mp hfresh
    rw [map_cons, nodup_cons] at hnodup
    obtain ⟨⟨v, g⟩, s', hv, hr⟩ := run_ok_of_bind hr
    let key : StoreKey := ⟨script, store.name⟩
    have hframe : ({ callStack := [script], stores := known } : Frame).WellFormed :=
      ⟨hknown, nofun, nofun⟩
    obtain ⟨hfits, -, -⟩ := haccepted.eval_gives h _ s v g s' hframe hv
    have hkeys : Dict.keys (Dict.set known key v) = Dict.keys known ++ [key] :=
      keys_set_of_not_mem v hnew
    have hnext : FirstValues script (Dict.set known key v) rest values :=
      ih hrest hnodup.2 (fresh_set hnew hfresh hnodup.1 v) (wellFormed_of_mem_set hknown hfits.1) hr
    -- later initialisers set other keys
    have hvalue : Dict.get? values key = some v := by
      rw [hnext.kept key (by simp [hkeys]), get?_set_self]
    refine ⟨?_, hnext.wellFormed, fun other hother => ?_, ?_⟩
    · rw [hnext.keys, hkeys, append_assoc]
      rfl
    · rw [hnext.kept other (by simp [hkeys, hother]), get?_set_of_ne]
      rintro rfl
      exact hnew hother
    · refine forall_mem_cons.mpr ⟨fun type htype => ?_, hnext.types⟩
      rw [get?_storeTypes, hvalue, Option.map_some, hfits.2 type htype]

namespace Library

/-! ### Sessions -/

theorem add_sound (world : World) (ha : AcceptedScript script) (hsound : library.Sound)
    : (add world script library).2.Sound := by
  have hkeeps : library.Steady (initialStores (host world) script.name [] script.stores library).2 :=
    initialStores_keeps (hostWithin_steady world maxDepth).toCallsKeep script.name [] _ library
  obtain ⟨hbetween, -⟩ := hkeeps hsound
  unfold add
  rw [Act.bind_run]
  rcases hfirst : initialStores (host world) script.name [] script.stores library with
    ⟨fault | values, between⟩
  · rw [hfirst] at hbetween
    exact hbetween
  · rw [hfirst] at hbetween
    have hvalues : FirstValues script.name [] script.stores values :=
      initialStores_first _ ha.stores.value ha.stores.nodup (fun _ _ => nofun) nofun hfirst
    intro name entry hentry
    change Dict.get? (Dict.set between script.name ⟨script, values⟩) name = some entry at hentry
    by_cases hname : name = script.name
    · subst hname
      rw [get?_set_self] at hentry
      obtain rfl := Option.some.inj hentry
      exact ⟨rfl, ha, hvalues.keys, hvalues.wellFormed, hvalues.types⟩
    · rw [get?_set_of_ne _ _ hname] at hentry
      exact hbetween name entry hentry

theorem afterStep_sound (library : Library) (step : Step) (hsound : library.Sound) : (library.afterStep step).Sound := by
  cases step with
  | load world name source =>
    rw [afterStep]
    split
    · exact hsound
    · next script hscript =>
      exact add_sound world (acceptedScript_of_ofSource hscript).2 hsound
  | execute world name arguments =>
    rw [afterStep]
    split
    · exact hsound
    · next entry hentry =>
      have hnamed : entry.script.name = name := (hsound name entry hentry).named
      unfold execute
      rw [hnamed]
      exact (execute_steady (hostWithin_steady world maxDepth) hentry arguments hsound).1

/-- **Every session keeps the library sound.** -/
theorem after_sound (steps : List Step) : (after steps).Sound :=
  after_induction nofun afterStep_sound steps

/-- **Store typing over whole sessions.**  Whatever was loaded and executed, and however it ended: the stores
of a loaded script are exactly those that it declares.  Each has a well-formed value, and the value is of the
type of the initialiser exactly if the initialiser has a type at all. -/
theorem storeType_after (steps : List Step) {name : String} {entry : Entry}
    (loaded : Dict.get? (after steps) name = some entry) :
    Dict.keys entry.stores = (entry.script.stores.map fun s => ⟨name, s.name⟩) ∧
    ∀ s ∈ entry.script.stores, ∃ v, Dict.get? entry.stores ⟨name, s.name⟩ = some v ∧
      v.WellFormed ∧ (s.value.dataType = .ok v.dataType ↔ ∃ type, s.value.dataType = .ok type) := by
  have hsound : entry.Sound name := after_sound steps name entry loaded
  have hkeys : Dict.keys entry.stores = entry.script.stores.map fun s => ⟨name, s.name⟩ := by
    rw [hsound.keys, storeKeys, hsound.named]
  refine ⟨hkeys, fun s hs => ?_⟩
  have hmem : (⟨name, s.name⟩ : StoreKey) ∈ Dict.keys entry.stores :=
    hkeys ▸ mem_map.mpr ⟨s, hs, rfl⟩
  obtain ⟨v, hv⟩ := Dict.exists_get? hmem
  refine ⟨v, hv, hsound.wellFormed _ (Dict.mem_of_get? hv), fun htype => ⟨_, htype⟩, ?_⟩
  rintro ⟨type, htype⟩
  have hfound := hsound.types s hs type htype
  rw [get?_storeTypes, hv, Option.map_some] at hfound
  rw [htype, ← Option.some.inj hfound]

/-- A script with two stores.  The initialiser of the first one has no type, but a value. -/
def halfTyped : Script where
  name := "!a"
  stores := [⟨"x", .binary (.boolLiteral false) .and (.stringLiteral "a")⟩, ⟨"y", .stringLiteral "b"⟩]
  parameters := []
  statements := [.assign (.store "y" .string) (.stringLiteral "c"), .print (.store "y" .string)]

def halfTypedSession : List Step :=
  [.load .still "!a" "STORE x = false and 'a'; STORE y = 'b'; y = 'c'; PRINT y;", .execute .still "!a" []]

theorem after_halfTypedSession : after halfTypedSession =
      [("!a", ⟨halfTyped, [(⟨"!a", "x"⟩, .bool false), (⟨"!a", "y"⟩, .string "c")]⟩)] := by
  have hsource : ofSource "!a" "STORE x = false and 'a'; STORE y = 'b'; y = 'c'; PRINT y;" = .ok halfTyped := by cbv
  rw [halfTypedSession, after, foldl_cons, afterStep, hsource]
  rfl

/-- The session in which one store has a typed initialiser and the other one has none. -/
theorem storeType_after_halfTypedSession : ∃ entry, Dict.get? (after halfTypedSession) "!a" = some entry ∧
      Dict.keys entry.stores = [⟨"!a", "x"⟩, ⟨"!a", "y"⟩] ∧
      ∃ v, Dict.get? entry.stores ⟨"!a", "y"⟩ = some v ∧ v.WellFormed ∧ .ok v.dataType =
        (Expr.stringLiteral "b").dataType := by
  have hloaded := congrArg (Dict.get? · "!a") after_halfTypedSession
  obtain ⟨hkeys, hstores⟩ := storeType_after halfTypedSession hloaded
  obtain ⟨v, hv, hwell, htype⟩ := hstores ⟨"y", .stringLiteral "b"⟩ (by simp [halfTyped])
  exact ⟨_, hloaded, hkeys, v, hv, hwell, (htype.mpr ⟨.string, rfl⟩).symm⟩

/-- A loaded script can have a store whose value is not of the type of its initialiser: there is none. -/
theorem exists_store_without_type : ∃ (steps : List Step) (name : String) (entry : Entry) (s : Store) (v : Value),
      Dict.get? (after steps) name = some entry ∧ s ∈ entry.script.stores ∧
        Dict.get? entry.stores ⟨name, s.name⟩ = some v ∧ s.value.dataType ≠ .ok v.dataType := by
  refine ⟨halfTypedSession, "!a", _, halfTyped.stores.head nofun, .bool false,
    congrArg (Dict.get? · "!a") after_halfTypedSession, head_mem _, rfl, ?_⟩
  exact nofun

end Library

end StreamBot.Script
