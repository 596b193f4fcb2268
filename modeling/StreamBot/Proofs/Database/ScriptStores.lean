import Mathlib.Logic.Basic
import StreamBot.Database.Commands
import StreamBot.Proofs.Dict
import StreamBot.Script.BuiltinCall

/-! # The stores of scripts in the database

`keptText db key` is the text that the database keeps for a store; there is one equation for each operation
that changes it.  Every store belongs to a script (`StoresOwned`), as some other rows belong to one of another table; what
may become of such rows is said once (`OwnedStep`).  That a new script finds no old values in its stores rests on it
(`keptText_withScript_self`).
-/

namespace StreamBot.Database

open List Option
open Script (StoreKey)

variable {α β : Type} {db db' : Database}
variable {key : StoreKey} {fits : α → Bool}
variable (row : StoredScript) (stores : List NewStore) {k : Database → Transaction β} {subject : Subject}
variable {find : Database → Option α} {rows : List α} {x : Transaction α} {b : β}

/-! ### Transactions -/

theorem ok_of_bind {k : α → Transaction β} (h : (x >>= k) db = .ok (b, db')) :
    ∃ a between, x db = .ok (a, between) ∧ k a between = .ok (b, db') := by
  rcases hx : x db with fault | ⟨a, between⟩
  · simp only [bind, StateT.bind, Except.bind, hx] at h
    cases h
  · simp only [bind, StateT.bind, Except.bind, hx] at h
    exact ⟨a, between, rfl, h⟩

theorem bind_of_ok {a : α} {between : Database} (h : x db = .ok (a, between))
    (k : α → Transaction β) : (x >>= k) db = k a between := by
  simp only [bind, StateT.bind, Except.bind, h]

theorem eq_of_only? {row : Option α}
    (h : only? fits rows db = .ok (row, db')) : db' = db ∧ ∀ found ∈ row, found ∈ rows ∧ fits found := by
  rcases hfilter : rows.filter fits with _ | ⟨first, _ | ⟨second, rest⟩⟩ <;>
    rw [only?, hfilter] at h <;> cases h
  · exact ⟨rfl, fun _ hnone => absurd hnone (not_mem_none _)⟩
  · refine ⟨rfl, fun found hfound => ?_⟩
    obtain rfl := some.inj hfound
    exact mem_filter.mp (hfilter ▸ mem_cons_self)

theorem ok_of_only? {k : Option α → Transaction β} (h : (only? fits rows >>= k) db = .ok (b, db')) :
    (∃ row ∈ rows, fits row ∧ k (some row) db = .ok (b, db')) ∨ k none db = .ok (b, db') := by
  obtain ⟨row, _, honly, hk⟩ := ok_of_bind h
  obtain ⟨rfl, hrow⟩ := eq_of_only? honly
  cases row with
  | none => exact .inr hk
  | some row =>
    obtain ⟨hmem, hfits⟩ := hrow row rfl
    exact .inl ⟨row, hmem, hfits, hk⟩

theorem only?_run (h : (rows.filter fits).length ≤ 1) : only? fits rows db = .ok (rows.find? fits, db) := by
  rw [← head?_filter]
  rcases hfilter : rows.filter fits with _ | ⟨first, _ | ⟨second, rest⟩⟩
  · rw [only?, hfilter]
    rfl
  · rw [only?, hfilter]
    rfl
  · simp [hfilter] at h

theorem eq_of_refuseExisting {row : Option α} {u : Unit}
    (h : refuseExisting subject row db = .ok (u, db')) : row = none ∧ db' = db := by
  cases row with
  | some row => cases h
  | none =>
    cases h
    exact ⟨rfl, rfl⟩

theorem refusing_run : (do let d ← get; refuseExisting subject (find d); k d : Transaction β) db =
      (find db).elim (k db db) fun _ => .error (.alreadyExists subject) := by
  change (refuseExisting subject (find db) >>= fun _ => k db) db = _
  cases find db <;> rfl

theorem ok_of_refusing (h : (do let d ← get; refuseExisting subject (find d); k d : Transaction β) db = .ok (b, db')) :
    find db = none ∧ k db db = .ok (b, db') := by
  rw [refusing_run] at h
  cases hfind : find db <;> rw [hfind] at h
  · exact ⟨rfl, h⟩
  · cases h

/-! ### Rows and what belongs to them -/

section Parts

variable (key : α → String) (owner : β → String)

def Owned (rows : List α) (parts : List β) : Prop := ∀ part ∈ parts, ∃ row ∈ rows, key row = owner part

inductive OwnedStep (rows : List α) (parts : List β) : List α → List β → Prop
  | keep {parts' : List β} (h : ∀ part' ∈ parts', ∃ part ∈ parts, owner part = owner part') :
    OwnedStep rows parts rows parts'
  | add (row : α) {new : List β} (h : ∀ part ∈ new, owner part = key row) :
    OwnedStep rows parts (rows ++ [row]) (parts ++ new)
  | remove (k : String) : OwnedStep rows parts (rows.filter (key · != k)) (parts.filter (owner · != k))

variable {key owner} {rows rows' : List α} {parts parts' : List β}

theorem OwnedStep.refl : OwnedStep key owner rows parts rows parts := .keep fun part hpart => ⟨part, hpart, rfl⟩

theorem OwnedStep.owned (h : OwnedStep key owner rows parts rows' parts') (howned : Owned key owner rows parts) :
    Owned key owner rows' parts' := by
  intro part hpart
  cases h with
  | keep h =>
    obtain ⟨old, hold, howner⟩ := h part hpart
    obtain ⟨row, hrow, hkey⟩ := howned old hold
    exact ⟨row, hrow, hkey.trans howner⟩
  | add row h =>
    rcases mem_append.1 hpart with hpart | hpart
    · obtain ⟨row, hrow, hkey⟩ := howned part hpart
      exact ⟨row, mem_append_left _ hrow, hkey⟩
    · exact ⟨row, mem_append_right _ mem_cons_self, (h part hpart).symm⟩
  | remove k =>
    obtain ⟨hpart, hne⟩ := mem_filter.1 hpart
    obtain ⟨row, hrow, hkey⟩ := howned part hpart
    exact ⟨row, mem_filter.2 ⟨hrow, by rwa [hkey]⟩, hkey⟩

end Parts

/-! ### What is kept -/

def keptText (db : Database) (key : StoreKey) : Option String :=
  (storeOf db key.script key.name).map (·.valueJson)

def texts (rows : List ScriptStore) : Dict StoreKey String :=
  rows.map fun row => (⟨row.script, row.name⟩, row.valueJson)

theorem keptText_eq_get? (db : Database) (key : StoreKey) : keptText db key = Dict.get? (texts db.scriptStores) key := by
  unfold keptText storeOf
  generalize db.scriptStores = rows
  induction rows with
  | nil => rfl
  | cons row rows ih =>
    by_cases hkey : key = ⟨row.script, row.name⟩
    · subst hkey
      rw [texts, map_cons, Dict.get?_cons_self, find?_cons_of_pos (by simp)]
      rfl
    · rw [texts, map_cons, Dict.get?_cons_of_ne _ hkey, find?_cons_of_neg, ih]
      · rfl
      · rw [Bool.and_eq_true, beq_iff_eq, beq_iff_eq]
        rintro ⟨hscript, hname⟩
        exact hkey (by rw [hscript, hname])

def StoresOwned (db : Database) : Prop :=
  ∀ row ∈ db.scriptStores, ∃ script ∈ db.scripts, script.command = row.script

theorem storesOwned_empty : ({} : Database).StoresOwned := by
  intro row hrow
  cases hrow

theorem StoresOwned.keptText_eq_none (howned : db.StoresOwned)
    (hfresh : ∀ script ∈ db.scripts, script.command ≠ key.script) : db.keptText key = none := by
  rw [keptText, storeOf, map_eq_none_iff, find?_eq_none]
  intro row hrow hkey
  rw [Bool.and_eq_true, beq_iff_eq] at hkey
  obtain ⟨script, hscript, hcommand⟩ := howned row hrow
  exact hfresh script hscript (hcommand.trans hkey.1)

/-! ### New scripts -/

def withScript (row : StoredScript) (stores : List NewStore) (db : Database) : Database := { db with
  scripts := db.scripts ++ [row]
  scriptStores := db.scriptStores ++ stores.map fun s => ⟨row.command, s.name, s.definitionJson, s.valueJson⟩ }

theorem eraseDups_of_nodup {names : List String} (h : names.Nodup) : names.eraseDups = names := by
  induction names with
  | nil => rfl
  | cons name rest ih =>
    rw [nodup_cons] at h
    have hfilter : rest.filter (fun other => !other == name) = rest := by
      refine filter_eq_self.mpr fun other hother => ?_
      rw [Bool.not_eq_true', beq_eq_false_iff_ne]
      rintro rfl
      exact h.1 hother
    rw [eraseDups_cons, hfilter, ih h.2]

theorem addScript_run {stores : List NewStore}
    (hfresh : ∀ script ∈ db.scripts, script.command ≠ row.command) (hnames : (stores.map (·.name)).Nodup) :
    (addScript row.command row.sourceCode row.json stores).run db = .ok (row, withScript row stores db) := by
  have hfind : db.scripts.find? (·.command == row.command) = none := by simpa using hfresh
  simp [addScript, Operation.run, refuseExisting, hfind, eraseDups_of_nodup hnames]
  rfl

theorem ok_of_addScript {command source json : String} {stores : List NewStore} {row : StoredScript}
    (h : (addScript command source json stores).run db = .ok (row, db')) :
    (∀ script ∈ db.scripts, script.command ≠ command) ∧ row = ⟨command, source, json⟩ ∧
      db' = withScript row stores db := by
  obtain ⟨hnone, hadd⟩ := ok_of_refusing h
  dsimp only at hadd
  split at hadd
  · cases hadd
  · cases hadd
    exact ⟨by simpa using hnone, rfl, rfl⟩

/-- The texts that new stores of a script start with. -/
def newTexts (script : String) (stores : List NewStore) : Dict StoreKey String :=
  stores.map fun s => (⟨script, s.name⟩, s.valueJson)

theorem keptText_withScript (key : StoreKey) : (withScript row stores db).keptText key =
      (db.keptText key).or (Dict.get? (newTexts row.command stores) key) := by
  have htexts : texts (withScript row stores db).scriptStores =
      texts db.scriptStores ++ newTexts row.command stores := by
    simp [texts, newTexts, withScript]
  rw [keptText_eq_get?, keptText_eq_get?, htexts]
  exact lookup_append

theorem keptText_withScript_self (howned : db.StoresOwned) {row : StoredScript}
    (hfresh : ∀ script ∈ db.scripts, script.command ≠ row.command) (stores : List NewStore)
    (hkey : key.script = row.command) :
    (withScript row stores db).keptText key = Dict.get? (newTexts row.command stores) key := by
  rw [keptText_withScript, howned.keptText_eq_none (hkey ▸ hfresh), none_or]

theorem keptText_withScript_of_ne
    (hkey : key.script ≠ row.command) : (withScript row stores db).keptText key = db.keptText key := by
  have hnone : Dict.get? (newTexts row.command stores) key = none := by
    rw [Dict.get?, lookup_eq_none_iff]
    intro p hp
    obtain ⟨store, -, rfl⟩ := mem_map.mp hp
    rw [bne_iff_ne]
    rintro rfl
    exact hkey rfl
  rw [keptText_withScript, hnone, or_none]

theorem StoresOwned.withScript (howned : db.StoresOwned) (row : StoredScript) (stores : List NewStore) :
    (withScript row stores db).StoresOwned := by
  refine OwnedStep.owned (.add row fun store hstore => ?_) howned
  obtain ⟨new, -, rfl⟩ := mem_map.mp hstore
  rfl

/-! ### Commands that are removed -/

/-- What removing a command by its name does: nothing, or it takes away one row with that name. -/
theorem ok_of_removeCommand {name : String} {found : Bool}
    (h : (removeCommandCaseInsensitive name).run db = .ok (found, db')) :
    found = false ∧ db' = db ∨ found ∧
      ((∃ row ∈ db.staticCommands, sameName row.name name ∧ db' = withoutStatic row.name db) ∨
        (∃ row ∈ db.parameterizedCommands, sameName row.name name ∧ db' = withoutParameterized row.name db) ∨
        (∃ row ∈ db.soundboard, sameName row.name name ∧ db' = withoutSoundboard row.name db) ∨
        ∃ row ∈ db.scripts, sameName row.command name ∧ db' = withoutScript row.command db) := by
  obtain ⟨_, _, hget, hrest⟩ := ok_of_bind h
  cases hget
  obtain ⟨row, hmem, hname, hfound⟩ | hrest := ok_of_only? hrest
  · cases hfound
    exact .inr ⟨rfl, .inl ⟨row, hmem, hname, rfl⟩⟩
  obtain ⟨row, hmem, hname, hfound⟩ | hrest := ok_of_only? hrest
  · cases hfound
    exact .inr ⟨rfl, .inr (.inl ⟨row, hmem, hname, rfl⟩)⟩
  obtain ⟨row, hmem, hname, hfound⟩ | hrest := ok_of_only? hrest
  · cases hfound
    exact .inr ⟨rfl, .inr (.inr (.inl ⟨row, hmem, hname, rfl⟩))⟩
  obtain ⟨row, hmem, hname, hfound⟩ | hrest := ok_of_only? hrest
  · cases hfound
    exact .inr ⟨rfl, .inr (.inr (.inr ⟨row, hmem, hname, rfl⟩))⟩
  · cases hrest
    exact .inl ⟨rfl, rfl⟩

/-! ### New values -/

def withText (key : StoreKey) (text : String) (db : Database) : Database := { db with
  scriptStores := change (fun row => row.script == key.script && row.name == key.name)
    (fun row => { row with valueJson := text }) db.scriptStores }

theorem updateScriptStoreValue_run (h : (db.keptText key).isSome) (text : String) :
    (updateScriptStoreValue key.script key.name text).run db = .ok ((), db.withText key text) := by
  rw [keptText, isSome_map] at h
  obtain ⟨row, hrow⟩ := isSome_iff_exists.mp h
  simp [updateScriptStoreValue, Operation.run, requireFound, hrow]
  rfl

theorem storeOf_withText (key other : StoreKey) (text : String) :
    storeOf (db.withText key text) other.script other.name = (storeOf db other.script other.name).map fun row =>
        if row.script == key.script && row.name == key.name then { row with valueJson := text }
        else row := by
  rw [storeOf, withText, change, find?_map]
  congr 2
  funext row
  rw [Function.comp_apply]
  split <;> rfl

theorem keptText_withText_self (h : (db.keptText key).isSome) (text : String) :
    (db.withText key text).keptText key = some text := by
  rw [keptText, isSome_map] at h
  obtain ⟨row, hrow⟩ := isSome_iff_exists.mp h
  rw [keptText, storeOf_withText, hrow, map_some, if_pos (find?_some hrow)]
  rfl

theorem keptText_withText_of_ne {other : StoreKey} (h : other ≠ key) (text : String) :
    (db.withText key text).keptText other = db.keptText other := by
  rw [keptText, storeOf_withText, keptText, Option.map_map]
  cases hrow : storeOf db other.script other.name with
  | none => rfl
  | some row =>
    obtain ⟨hscript, hname⟩ : row.script = other.script ∧ row.name = other.name := by
      simpa using find?_some hrow
    rw [map_some, Function.comp_apply, if_neg, map_some]
    rw [Bool.and_eq_true, beq_iff_eq, beq_iff_eq, hscript, hname]
    rintro ⟨hscript, hname⟩
    exact h (congrArg₂ StoreKey.mk hscript hname)

theorem StoresOwned.withText (howned : db.StoresOwned) (key : StoreKey) (text : String) :
    (db.withText key text).StoresOwned := by
  refine OwnedStep.owned (.keep fun store hstore => ?_) howned
  obtain ⟨row, hrow, rfl⟩ := mem_map.mp hstore
  refine ⟨row, hrow, ?_⟩
  split <;> rfl

end StreamBot.Database
