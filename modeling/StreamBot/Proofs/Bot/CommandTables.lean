import StreamBot.Bot.Management
import StreamBot.Proofs.Bot.Loading
import StreamBot.Proofs.Database.ScriptStores
import StreamBot.Proofs.Text.LowerCase

/-! # How the commands in the tables change

What adding, removing and changing rows does to the commands in the tables (`storedCommands`), and when these can
be read afterwards (`loadable_insert_iff`, `loadable_renamed_iff`).

A command that the database finds by its own name can be removed by it (`exists_removeCommand`).
-/

namespace StreamBot

open List Database Text

variable {s name : String} {α : Type} {u : Unit}
variable {row : ParameterizedCommand}

namespace Database

variable {db db' : Database} {subject : Subject}

theorem ok_of_requireFound {row : Option α} {found : α}
    (h : requireFound subject row db = .ok (found, db')) : row = some found ∧ db' = db := by
  cases row with
  | none => cases h
  | some row =>
    cases h
    exact ⟨rfl, rfl⟩

theorem eq_of_required {find : Database → Option α} {f : Database → Database}
    (h : (do let _ ← requireFound subject (find (← get)); modify f : Transaction Unit) db = .ok (u, db')) : db' = f db := by
  obtain ⟨_, _, hget, hrest⟩ := ok_of_bind h
  cases hget
  obtain ⟨_, _, hfound, hwrite⟩ := ok_of_bind hrest
  obtain ⟨-, rfl⟩ := ok_of_requireFound hfound
  cases hwrite
  rfl

theorem ok_of_only_required {fits : α → Bool} {rows : Database → List α} {k : α → Transaction β} {b : β}
    (h : (do let row ← only? fits (rows (← get)); let row ← requireFound subject row; k row : Transaction β) db =
      .ok (b, db')) : ∃ row ∈ rows db, fits row ∧ k row db = .ok (b, db') := by
  obtain ⟨_, _, hget, hlook⟩ := ok_of_bind h
  cases hget
  obtain ⟨row, hmem, hfits, hk⟩ | hnone := ok_of_only? hlook
  · exact ⟨row, hmem, hfits, hk⟩
  · cases hnone

theorem ok_of_addSoundboard {filename : String} {uploader : Uploader} {row : SoundboardCommand}
    (h : (addSoundboardCommand name filename uploader).run db = .ok (row, db')) :
    row = { name, filename, uploader } ∧ db' = { db with soundboard := db.soundboard ++ [row] } := by
  obtain ⟨-, hadd⟩ := ok_of_refusing h
  cases hadd
  exact ⟨rfl, rfl⟩

theorem ok_of_renameSoundboard {old new : String} (h : (updateSoundboardCommandName old new).run db = .ok (u, db')) :
    (∃ row ∈ db.soundboard, row.name = old) ∧ db' = renamedSoundboard old new db := by
  obtain ⟨_, _, hget, hlook⟩ := ok_of_bind h
  cases hget
  obtain ⟨taken, _, honly, hfree⟩ := ok_of_bind hlook
  obtain ⟨rfl, -⟩ := eq_of_only? honly
  dsimp only at hfree
  split at hfree
  · cases hfree
  obtain ⟨row, _, hfound, hunique⟩ := ok_of_bind hfree
  obtain ⟨hrow, rfl⟩ := ok_of_requireFound hfound
  split at hunique
  · cases hunique
  cases hunique
  have hname := find?_some hrow
  exact ⟨⟨row, mem_of_find?_eq_some hrow, beq_iff_eq.1 hname⟩, rfl⟩

def adjustedSoundboard (name : String) (volume : Float) (db : Database) : Database :=
  { db with soundboard := change (·.name == name) (fun row => { row with volume }) db.soundboard }

theorem ok_of_adjustSoundboard {volume : Float} (h : (updateSoundboardCommandVolume name volume).run db = .ok (u, db')) :
    ∃ row ∈ db.soundboard, sameName row.name name ∧ db' = adjustedSoundboard row.name volume db := by
  unfold updateSoundboardCommandVolume Operation.run StateT.run at h
  dsimp only at h
  split at h
  · cases h
  obtain ⟨row, hmem, hname, hnumber⟩ := ok_of_only_required h
  split at hnumber
  · cases hnumber
  cases hnumber
  exact ⟨row, hmem, hname, rfl⟩

end Database

namespace Bot

open Chat (Handler Action)
open Database (parametersOf parameterNames sameName withScript withoutStatic withoutParameterized withoutSoundboard
  withoutScript)

variable {bot : Bot} {db db' : Database} {command : α → StoredCommand} {rows : List α} {c : StoredCommand}

/-! ### Commands that are added -/

theorem storedCommands_addStatic (row : StaticCommand) :
    (storedCommands { db with staticCommands := db.staticCommands ++ [row] }).Perm
      (.ofStatic row :: storedCommands db) := by
  simp only [storedCommands, map_append, map_cons, map_nil, append_assoc]
  exact perm_middle

theorem storedCommands_addSoundboard (row : SoundboardCommand) :
    (storedCommands { db with soundboard := db.soundboard ++ [row] }).Perm (.ofClip row :: storedCommands db) := by
  simp only [storedCommands, map_append, map_cons, map_nil, ← append_assoc]
  simp only [append_assoc _ [_], singleton_append]
  exact perm_middle

theorem storedCommands_withScript (row : StoredScript) (stores : List NewStore) :
    (storedCommands (withScript row stores db)).Perm (.ofScript row :: storedCommands db) := by
  simp only [storedCommands, withScript, map_append, map_cons, map_nil, ← append_assoc]
  exact perm_append_singleton _ _

def ParametersOwned (db : Database) : Prop :=
  ∀ p ∈ db.parameters, ∃ row ∈ db.parameterizedCommands, row.name = p.command

def withParameterized (row : ParameterizedCommand) (parameters : List String) (db : Database) : Database :=
  { db with
    parameterizedCommands := db.parameterizedCommands ++ [row]
    parameters := db.parameters ++ (parameterNames parameters).map fun p => ⟨row.name, p⟩ }

section Parameterized

variable (howned : ParametersOwned db) (hfresh : ∀ other ∈ db.parameterizedCommands, other.name ≠ row.name)
  (parameters : List String)

theorem parametersOf_withParameterized_of_ne (h : name ≠ row.name) :
    (withParameterized row parameters db).parametersOf name = db.parametersOf name := by
  have hnew : ((parameterNames parameters).map fun p => (⟨row.name, p⟩ : Parameter)).filter
      (·.command == name) = [] := by
    rw [filter_eq_nil_iff]
    intro p hp hcommand
    obtain ⟨other, -, rfl⟩ := mem_map.1 hp
    exact h (beq_iff_eq.1 hcommand).symm
  rw [parametersOf, withParameterized, filter_append, hnew, append_nil, parametersOf]

include howned hfresh

theorem parametersOf_withParameterized_self :
    (withParameterized row parameters db).parametersOf row.name = (parameterNames parameters).mergeSort (· ≤ ·) := by
  have hnone : db.parameters.filter (·.command == row.name) = [] := by
    rw [filter_eq_nil_iff]
    intro p hp hcommand
    obtain ⟨other, hother, hname⟩ := howned p hp
    exact hfresh other hother (hname.trans (beq_iff_eq.1 hcommand))
  have hnew : ((parameterNames parameters).map fun p => (⟨row.name, p⟩ : Parameter)).filter
      (·.command == row.name) = (parameterNames parameters).map fun p => ⟨row.name, p⟩ := by
    rw [filter_eq_self]
    intro p hp
    obtain ⟨name, -, rfl⟩ := mem_map.1 hp
    exact beq_self_eq_true _
  rw [parametersOf, withParameterized, filter_append, hnone, hnew, nil_append, map_map]
  congr 1
  exact map_id _

theorem rows_withParameterized {β : Type} (f : ParameterizedCommand → List String → β) :
    (withParameterized row parameters db).parameterizedCommands.map
        (fun other => f other ((withParameterized row parameters db).parametersOf other.name)) =
      db.parameterizedCommands.map (fun other => f other (db.parametersOf other.name)) ++
        [f row ((parameterNames parameters).mergeSort (· ≤ ·))] := by
  rw [withParameterized, map_append, ← withParameterized, map_singleton,
    parametersOf_withParameterized_self howned hfresh]
  congr 1
  refine map_congr_left fun other hother => ?_
  rw [parametersOf_withParameterized_of_ne _ (hfresh other hother)]

theorem storedCommands_withParameterized : (storedCommands (withParameterized row parameters db)).Perm
      (.ofParameterized row ((parameterNames parameters).mergeSort (· ≤ ·)) :: storedCommands db) := by
  rw [storedCommands, rows_withParameterized howned hfresh parameters StoredCommand.ofParameterized]
  simp only [storedCommands, withParameterized, append_assoc, singleton_append]
  exact (perm_middle.append_left _).trans perm_middle

end Parameterized

/-! ### Commands that are removed -/

/-- The commands of a table have keys of their own, and no other command has one of these. -/
theorem nodup_rows (before : List StoredCommand) {after : List StoredCommand}
    (hnodup : ((before ++ rows.map command ++ after).map (·.key)).Nodup) : (rows.map fun row => (command row).key).Nodup ∧
      ∀ row ∈ rows, ∀ c, c ∈ before ∨ c ∈ after → c.key ≠ (command row).key := by
  rw [map_append, map_append, nodup_append, nodup_append] at hnodup
  obtain ⟨⟨-, hrows, hbefore⟩, -, hafter⟩ := hnodup
  rw [map_map] at hrows
  refine ⟨hrows, fun row hrow c hc => ?_⟩
  have hmem : (command row).key ∈ (rows.map command).map (·.key) := mem_map_of_mem (mem_map_of_mem hrow)
  rcases hc with hc | hc
  · exact hbefore c.key (mem_map_of_mem hc) _ hmem
  · exact (hafter _ (mem_append_right _ hmem) c.key (mem_map_of_mem hc)).symm

/-- Rows are taken out of their table by name, and so are the commands without regard to case: no other command
has the name. -/
theorem filter_rows (name : α → String) (before after : List StoredCommand)
    (hname : ∀ row, (command row).name = name row) (hnodup : ((before ++ rows.map command ++ after).map (·.key)).Nodup)
    {row : α} (hrow : row ∈ rows) :
    before ++ (rows.filter (name · != name row)).map command ++ after =
      (before ++ rows.map command ++ after).filter (·.key != (command row).key) := by
  obtain ⟨hrows, hothers⟩ := nodup_rows _ hnodup
  -- Rows of the table differ in their names as they do in their keys, and the other commands have other keys.
  have hkept {other : List StoredCommand} (h : ∀ c ∈ other, c ∈ before ∨ c ∈ after) :
      other.filter (·.key != (command row).key) = other :=
    filter_eq_self.2 fun c hc => bne_iff_ne.2 (hothers row hrow c (h c hc))
  have hsame : (rows.filter (name · != name row)).map command =
      (rows.map command).filter (·.key != (command row).key) := by
    rw [filter_map]
    refine congrArg _ (filter_congr fun other hother => ?_)
    rw [Function.comp_apply, Bool.eq_iff_iff, bne_iff_ne, bne_iff_ne, not_iff_not]
    constructor
    · intro h
      rw [StoredCommand.key, StoredCommand.key, hname, hname, h]
    · intro h
      rw [inj_on_of_nodup_map hrows hother hrow h]
  rw [filter_append, filter_append, hsame, hkept fun _ => .inl, hkept fun _ => .inr]

theorem parametersOf_withoutParameterized {other : String} (h : other ≠ name) :
    (withoutParameterized name db).parametersOf other = db.parametersOf other := by
  rw [parametersOf, withoutParameterized, filter_filter]
  congr 2
  refine filter_congr fun p _ => ?_
  by_cases hother : p.command = other <;> simp [hother, h]

section Removing

variable (hnodup : ((storedCommands db).map (·.key)).Nodup)

include hnodup

theorem storedCommands_withoutStatic {row : StaticCommand} (hrow : row ∈ db.staticCommands) :
    storedCommands (withoutStatic row.name db) = (storedCommands db).filter (·.key != lower row.name) := by
  simp only [storedCommands, append_assoc] at hnodup ⊢
  exact filter_rows (·.name) [] _ (fun _ => rfl) hnodup hrow

theorem storedCommands_withoutParameterized (hrow : row ∈ db.parameterizedCommands) :
    storedCommands (withoutParameterized row.name db) = (storedCommands db).filter (·.key != lower row.name) := by
  have hrows : (withoutParameterized row.name db).parameterizedCommands.map (fun other =>
        StoredCommand.ofParameterized other ((withoutParameterized row.name db).parametersOf other.name)) =
      (db.parameterizedCommands.filter (·.name != row.name)).map
        fun other => .ofParameterized other (db.parametersOf other.name) := by
    refine map_congr_left fun other hother => ?_
    rw [parametersOf_withoutParameterized (bne_iff_ne.1 (mem_filter.1 hother).2)]
  rw [storedCommands, hrows]
  simp only [storedCommands, append_assoc _ (List.map StoredCommand.ofClip _)] at hnodup ⊢
  exact filter_rows (·.name) _ _ (fun _ => rfl) hnodup hrow

theorem storedCommands_withoutSoundboard {row : SoundboardCommand} (hrow : row ∈ db.soundboard) :
    storedCommands (withoutSoundboard row.name db) = (storedCommands db).filter (·.key != lower row.name) := by
  exact filter_rows SoundboardCommand.name _ _ (fun _ => rfl) hnodup hrow

theorem storedCommands_withoutScript {row : StoredScript} (hrow : row ∈ db.scripts) :
    storedCommands (withoutScript row.command db) = (storedCommands db).filter (·.key != lower row.command) := by
  rw [storedCommands, ← append_nil (_ ++ _)] at hnodup
  have h := filter_rows StoredScript.command _ [] (fun _ => rfl) hnodup hrow
  rw [append_nil, append_nil] at h
  exact h

theorem storedCommands_of_removeCommand {found : Bool}
    (h : (removeCommandCaseInsensitive name).run db = .ok (found, db')) :
    found = false ∧ db' = db ∨ found ∧ ∃ gone ∈ storedCommands db, sameName gone.name name ∧
      storedCommands db' = (storedCommands db).filter (·.key != gone.key) := by
  obtain ⟨rfl, rfl⟩ | ⟨rfl, ⟨row, hrow, hname, rfl⟩ | ⟨row, hrow, hname, rfl⟩ | ⟨row, hrow, hname, rfl⟩ |
    ⟨row, hrow, hname, rfl⟩⟩ := ok_of_removeCommand h
  · exact .inl ⟨rfl, rfl⟩
  · exact .inr ⟨rfl, _, ofStatic_mem hrow, hname, storedCommands_withoutStatic hnodup hrow⟩
  · exact .inr ⟨rfl, _, ofParameterized_mem hrow, hname, storedCommands_withoutParameterized hnodup hrow⟩
  · exact .inr ⟨rfl, _, ofClip_mem hrow, hname, storedCommands_withoutSoundboard hnodup hrow⟩
  · exact .inr ⟨rfl, _, ofScript_mem hrow, hname, storedCommands_withoutScript hnodup hrow⟩

end Removing

theorem length_filter_sameName {name : α → String} {wanted : String}
    (hnodup : (rows.map fun row => lower (name row)).Nodup) :
    (rows.filter fun row => sameName (name row) wanted).length ≤ 1 := by
  have hfilter := hnodup.sublist ((filter_sublist (p := fun row => sameName (name row) wanted)).map _)
  have hsame (row : α) (h : row ∈ rows.filter fun row => sameName (name row) wanted) :
      lower (name row) = lower wanted :=
    lower_eq_of_sameName (mem_filter.1 h).2
  rcases hrows : rows.filter fun row => sameName (name row) wanted with _ | ⟨first, _ | ⟨second, rest⟩⟩
  · simp
  · simp
  · rw [hrows] at hfilter hsame
    simp [hsame first (by simp), hsame second (by simp)] at hfilter

theorem exists_removeCommand (hnodup : ((storedCommands db).map (·.key)).Nodup) (hc : c ∈ storedCommands db)
    (hfound : sameName c.name c.name) : ∃ db', (removeCommandCaseInsensitive c.name).run db = .ok (true, db') := by
  -- Each table has at most one such row, so that looking for the only one does not fail.
  have hlook {β : Type} {rows : List β} {name : β → String} (hrows : (rows.map fun row => lower (name row)).Nodup)
      {k : Option β → Transaction Bool} (hsome : ∀ row, ∃ db', k (some row) db = .ok (true, db'))
      (hnone : (∀ row ∈ rows, ¬ sameName (name row) c.name) → ∃ db', k none db = .ok (true, db')) :
      ∃ db', (only? (fun row => sameName (name row) c.name) rows >>= k) db = .ok (true, db') := by
    rw [bind_of_ok (only?_run (length_filter_sameName hrows))]
    cases hfind : rows.find? fun row => sameName (name row) c.name with
    | some row => exact hsome row
    | none => exact hnone (find?_eq_none.1 hfind)
  simp only [storedCommands, map_append, map_map, nodup_append] at hnodup
  obtain ⟨⟨⟨hstatics, hparameterized, -⟩, hclips, -⟩, hscripts, -⟩ := hnodup
  unfold removeCommandCaseInsensitive Operation.run StateT.run
  dsimp only
  rw [bind_of_ok (x := get) rfl]
  refine hlook hstatics (fun _ => ⟨_, rfl⟩) fun hstatic => ?_
  refine hlook hparameterized (fun _ => ⟨_, rfl⟩) fun hparameterized => ?_
  refine hlook hclips (fun _ => ⟨_, rfl⟩) fun hclip => ?_
  refine hlook hscripts (fun _ => ⟨_, rfl⟩) fun hscript => ?_
  simp only [storedCommands, mem_append, mem_map] at hc
  obtain ((⟨row, hrow, rfl⟩ | ⟨row, hrow, rfl⟩) | ⟨row, hrow, rfl⟩) | ⟨row, hrow, rfl⟩ := hc
  · exact absurd hfound (hstatic row hrow)
  · exact absurd hfound (hparameterized row hrow)
  · exact absurd hfound (hclip row hrow)
  · exact absurd hfound (hscript row hrow)

/-! ### Commands that are changed -/

def StoredCommand.renamed (old new : String) (c : StoredCommand) : StoredCommand :=
  if c.name = old then { c with name := new } else c

open StoredCommand

def atVolume (volume : Float) : Action → Action
  | .play clip uploader => .play { clip with volume } uploader
  | action => action

def StoredCommand.adjusted (name : String) (volume : Float) (c : StoredCommand) : StoredCommand :=
  if c.name = name then { c with action := c.action.map (atVolume volume) } else c

section Changing

variable (hnodup : ((storedCommands db).map (·.key)).Nodup) {row : SoundboardCommand} (hrow : row ∈ db.soundboard)

include hnodup hrow

/-- The clips with some name are changed in their table, and so is the command: no other one has the name. -/
theorem storedCommands_changed {g : SoundboardCommand → SoundboardCommand} {f : StoredCommand → StoredCommand}
    (hchanged : ∀ other, other.name = row.name → ofClip (g other) = f (ofClip other))
    (hsame : ∀ c : StoredCommand, c.name ≠ row.name → f c = c) :
    storedCommands { db with soundboard := change (·.name == row.name) g db.soundboard } = (storedCommands db).map f := by
  obtain ⟨-, hothers⟩ := nodup_rows _ hnodup
  have hkept {other : List StoredCommand} (h : ∀ c ∈ other, c.key ≠ (ofClip row).key) : other.map f = other :=
    (map_congr_left fun c hc => hsame c fun hname => h c hc (congrArg lower hname)).trans (map_id _)
  have hrows : (change (·.name == row.name) g db.soundboard).map ofClip = (db.soundboard.map ofClip).map f := by
    rw [change, map_map, map_map]
    refine map_congr_left fun other _ => ?_
    by_cases hother : other.name = row.name
    · simp only [Function.comp_apply, hother, beq_self_eq_true, if_true]
      exact hchanged other hother
    · simp only [Function.comp_apply, beq_eq_false_iff_ne.2 hother, Bool.false_eq_true, if_false]
      exact (hsame _ hother).symm
  rw [storedCommands, storedCommands, map_append, map_append, hrows, hkept fun c hc => hothers row hrow c (.inl hc),
    hkept fun c hc => hothers row hrow c (.inr hc)]
  rfl

theorem storedCommands_renamed (new : String) : storedCommands (renamedSoundboard row.name new db) =
      (storedCommands db).map (.renamed row.name new) := by
  refine storedCommands_changed hnodup hrow (fun other hother => ?_) fun c hc => if_neg hc
  exact (if_pos hother).symm

theorem storedCommands_adjusted (volume : Float) : storedCommands (adjustedSoundboard row.name volume db) =
      (storedCommands db).map (.adjusted row.name volume) := by
  refine storedCommands_changed hnodup hrow (fun other hother => ?_) fun c hc => if_neg hc
  exact (if_pos hother).symm

end Changing

/-! ### Tables that can be read -/

theorem StoredCommand.exists_handler :
    (∃ x, c.handler = .ok x) ↔ (∃ p, Trigger.ofName c.name = .ok p) ∧ ∃ action, c.action = .ok action := by
  constructor
  · rintro ⟨x, hx⟩
    obtain ⟨p, action, hp, haction, -⟩ := handler_eq_ok.1 hx
    exact ⟨⟨p, hp⟩, action, haction⟩
  · rintro ⟨⟨p, hp⟩, action, haction⟩
    exact ⟨_, handler_eq_ok.2 ⟨p, action, hp, haction, rfl⟩⟩

def Adds (old new : List StoredCommand) (c : StoredCommand) : Prop :=
  (∀ d ∈ old, d.key ≠ c.key) ∧ new.Perm (c :: old)

def Removes (old new : List StoredCommand) : Prop := ∃ gone ∈ old, new = old.filter (·.key != gone.key)

theorem loadable_insert_iff (h : Loadable db)
    (hadds : Adds (storedCommands db) (storedCommands db') c) : Loadable db' ↔ ∃ x, c.handler = .ok x := by
  obtain ⟨hfresh, hperm⟩ := hadds
  constructor
  · intro h'
    exact h'.handled c (hperm.mem_iff.2 mem_cons_self)
  · intro hhandler
    refine ⟨?_, fun d hd => ?_⟩
    · rw [(hperm.map _).nodup_iff, map_cons, nodup_cons]
      refine ⟨fun hkey => ?_, h.nodup⟩
      obtain ⟨d, hd, heq⟩ := mem_map.1 hkey
      exact hfresh d hd heq
    · rcases mem_cons.1 (hperm.mem_iff.1 hd) with rfl | hd
      · exact hhandler
      · exact h.handled d hd

theorem Loadable.filter {keep : StoredCommand → Bool} (h : Loadable db)
    (heq : storedCommands db' = (storedCommands db).filter keep) : Loadable db' := by
  refine ⟨?_, fun d hd => h.handled d (mem_filter.1 (heq ▸ hd)).1⟩
  rw [heq]
  exact h.nodup.sublist (filter_sublist.map _)

theorem loadable_renamed_iff {old new : String} (h : Loadable db)
    (hold : ∃ c ∈ storedCommands db, c.name = old) (heq : storedCommands db' = (storedCommands db).map (.renamed old new)) :
    Loadable db' ↔ (∃ p, Trigger.ofName new = .ok p) ∧
      ∀ c ∈ storedCommands db, c.name ≠ old → c.key ≠ lower new := by
  obtain ⟨first, hfirst, hname⟩ := hold
  have hrenamed {c : StoredCommand} (hc : c.name = old) : c.renamed old new = { c with name := new } := if_pos hc
  have hother {c : StoredCommand} (hc : c.name ≠ old) : c.renamed old new = c := if_neg hc
  have hinj {c d : StoredCommand} (hc : c ∈ storedCommands db) (hd : d ∈ storedCommands db) (hkey : c.key = d.key) :
      c = d := inj_on_of_nodup_map h.nodup hc hd hkey
  have hnodup : ((storedCommands db').map (·.key)).Nodup ↔
      ∀ c ∈ storedCommands db, c.name ≠ old → c.key ≠ lower new := by
    rw [heq, map_map, nodup_map_iff_inj_on h.nodup.of_map]
    constructor
    · intro hinj c hc hne hkey
      have hsame : c = first := hinj c hc first hfirst (by
        rw [Function.comp_apply, Function.comp_apply, hother hne, hrenamed hname, hkey]
        rfl)
      exact hne (hsame ▸ hname)
    · intro hfree c hc d hd hsame
      rw [Function.comp_apply, Function.comp_apply] at hsame
      by_cases hcold : c.name = old <;> by_cases hdold : d.name = old
      · exact hinj hc hd (by rw [key, key, hcold, hdold])
      · rw [hrenamed hcold, hother hdold] at hsame
        exact absurd hsame.symm (hfree d hd hdold)
      · rw [hother hcold, hrenamed hdold] at hsame
        exact absurd hsame (hfree c hc hcold)
      · rw [hother hcold, hother hdold] at hsame
        exact hinj hc hd hsame
  constructor
  · intro h'
    have hmem : first.renamed old new ∈ storedCommands db' := heq ▸ mem_map_of_mem hfirst
    have hpattern := (exists_handler.1 (h'.handled _ hmem)).1
    rw [hrenamed hname] at hpattern
    exact ⟨hpattern, hnodup.1 h'.nodup⟩
  · rintro ⟨hpattern, hfree⟩
    refine ⟨hnodup.2 hfree, fun d hd => ?_⟩
    rw [heq] at hd
    obtain ⟨c, hc, rfl⟩ := mem_map.1 hd
    by_cases hcold : c.name = old
    · rw [hrenamed hcold]
      exact exists_handler.2 ⟨hpattern, (exists_handler.1 (h.handled c hc)).2⟩
    · rw [hother hcold]
      exact h.handled c hc

theorem Loadable.adjusted {volume : Float} (h : Loadable db)
    (heq : storedCommands db' = (storedCommands db).map (.adjusted name volume)) : Loadable db' := by
  have hname (c : StoredCommand) : (c.adjusted name volume).name = c.name := by
    unfold StoredCommand.adjusted
    split <;> rfl
  refine ⟨?_, fun d hd => ?_⟩
  · have hkeys : (·.key) ∘ StoredCommand.adjusted name volume = (·.key) :=
      funext fun c => congrArg lower (hname c)
    rw [heq, map_map, hkeys]
    exact h.nodup
  · rw [heq] at hd
    obtain ⟨c, hc, rfl⟩ := mem_map.1 hd
    obtain ⟨hpattern, action, haction⟩ := exists_handler.1 (h.handled c hc)
    refine exists_handler.2 ⟨by rwa [hname], ?_⟩
    unfold StoredCommand.adjusted
    split
    · exact ⟨_, congrArg (Except.map _) haction⟩
    · exact ⟨action, haction⟩

/-! ### Responses -/

theorem addStaticCommand_run (row : StaticCommand) (hfresh : ∀ other ∈ db.staticCommands, other.name ≠ row.name) :
    (addStaticCommand row.name row.response).run db =
      .ok (row, { db with staticCommands := db.staticCommands ++ [row] }) := by
  have hfind : db.staticCommands.find? (·.name == row.name) = none := by simpa using hfresh
  simp [addStaticCommand, Operation.run, refuseExisting, hfind]
  rfl

theorem addParameterizedCommand_run (row : ParameterizedCommand)
    (hfresh : ∀ other ∈ db.parameterizedCommands, other.name ≠ row.name) (parameters : List String) :
    (addParameterizedCommand row.name row.response parameters).run db =
      .ok (row, withParameterized row parameters db) := by
  have hfind : db.parameterizedCommands.find? (·.name == row.name) = none := by simpa using hfresh
  simp [addParameterizedCommand, Operation.run, refuseExisting, hfind]
  rfl

end Bot
end StreamBot
