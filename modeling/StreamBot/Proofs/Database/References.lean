import StreamBot.Database.Call
import StreamBot.Proofs.Bot.CommandTables

/-! # References between tables

Parameters belong to a command, stores to a script, and raids play a clip of the soundboard, each by a name.  What an
operation may do to two such tables is said once (`OwnedStep`, `ClipStep`), every operation is shown to do one of these
things (`steps_operation`), and all else follows from them.

Main statement: no reference ever leads nowhere (`references_intact`).
-/

namespace StreamBot.Database

open List

variable {α β : Type} {db db' : Database}
variable (name : String) (user : RaidUser) (command : String) {o : Operation α}

theorem OwnedStep.parts_eq {key : α → String} {owner : β → String} {rows rows' : List α} {parts parts' : List β}
    (h : OwnedStep key owner rows parts rows' parts') {k : String}
    (hwas : ∃ row ∈ rows, key row = k) (hgone : ∀ row ∈ rows', key row ≠ k) :
    parts' = parts.filter (owner · != k) := by
  obtain ⟨row, hrow, hkey⟩ := hwas
  cases h with
  | keep h => exact absurd hkey (hgone row hrow)
  | add _ h => exact absurd hkey (hgone row (mem_append_left _ hrow))
  | remove j =>
    have hj : j = k := by
      by_contra hne
      exact hgone row (mem_filter.2 ⟨hrow, by simpa [hkey] using Ne.symm hne⟩) hkey
    rw [hj]

/-! ### Clips and the raids that play them -/

/-- Raids with another clip where they played one with a name. -/
def replayed (old : String) (new : Option String) (actions : List RaidAction) : List RaidAction :=
  change (·.clip == some old) (fun action => { action with clip := new }) actions

def Playable (clips : List SoundboardCommand) (actions : List RaidAction) : Prop :=
  ∀ action ∈ actions, ∀ name ∈ action.clip, ∃ clip ∈ clips, clip.name = name

/-- What may become of clips and of the raids that play them. -/
inductive ClipStep (clips : List SoundboardCommand) (actions : List RaidAction) :
    List SoundboardCommand → List RaidAction → Prop
  | keep {clips' : List SoundboardCommand} {actions' : List RaidAction} (hnames : clips'.map (·.name) = clips.map (·.name))
    (h : ∀ action' ∈ actions', (∃ action ∈ actions, action.clip = action'.clip) ∨
      ∀ name ∈ action'.clip, ∃ clip ∈ clips, clip.name = name) : ClipStep clips actions clips' actions'
  | add (clip : SoundboardCommand) : ClipStep clips actions (clips ++ [clip]) actions
  | remove (name : String) : ClipStep clips actions (clips.filter (·.name != name)) (replayed name none actions)
  | rename {old : String} (new : String) (h : ∃ clip ∈ clips, clip.name = old) : ClipStep clips actions
    (change (·.name == old) (fun clip => { clip with name := new }) clips) (replayed old (some new) actions)

section Clips

variable {clips clips' : List SoundboardCommand} {actions actions' : List RaidAction}

theorem ClipStep.refl : ClipStep clips actions clips actions := .keep rfl fun action haction => .inl ⟨action, haction, rfl⟩

theorem mem_replayed {old : String} {new : Option String} {action' : RaidAction} (h : action' ∈ replayed old new actions) :
    action'.clip = new ∨ ∃ action ∈ actions, action.clip ≠ some old ∧ action.clip = action'.clip := by
  obtain ⟨action, haction, rfl⟩ := mem_map.1 h
  split
  · exact .inl rfl
  · next hne => exact .inr ⟨action, haction, by simpa using hne, rfl⟩

theorem ClipStep.playable (h : ClipStep clips actions clips' actions') (hplay : Playable clips actions) :
    Playable clips' actions' := by
  intro action haction name hname
  cases h with
  | keep hnames h =>
    have hold : ∃ clip ∈ clips, clip.name = name := by
      rcases h action haction with ⟨old, hold, hclip⟩ | h
      · exact hplay old hold name (hclip ▸ hname)
      · exact h name hname
    rw [← mem_map, ← hnames, mem_map] at hold
    exact hold
  | add clip =>
    obtain ⟨clip, hclip, heq⟩ := hplay action haction name hname
    exact ⟨clip, mem_append_left _ hclip, heq⟩
  | remove gone =>
    rcases mem_replayed haction with hnone | ⟨old, hold, hne, hclip⟩
    · rw [hnone] at hname
      exact absurd hname (Option.not_mem_none _)
    · obtain ⟨clip, hmem, rfl⟩ := hplay old hold name (hclip ▸ hname)
      refine ⟨clip, mem_filter.2 ⟨hmem, ?_⟩, rfl⟩
      rw [bne_iff_ne]
      rintro rfl
      exact hne (hclip.trans hname)
  | @rename old new h =>
    rcases mem_replayed haction with hnew | ⟨action, haction, hne, hclip⟩
    · obtain ⟨clip, hmem, hname'⟩ := h
      rw [hnew] at hname
      obtain rfl := Option.some.inj hname
      exact ⟨_, mem_map_of_mem hmem, by rw [if_pos (beq_iff_eq.2 hname')]⟩
    · obtain ⟨clip, hmem, rfl⟩ := hplay action haction name (hclip ▸ hname)
      refine ⟨clip, mem_map.2 ⟨clip, hmem, if_neg ?_⟩, rfl⟩
      rw [beq_iff_eq]
      rintro rfl
      exact hne (hclip.trans hname)

/-- A clip goes because it is removed or because it gets another name, and exactly the raids that played it follow. -/
theorem ClipStep.actions_eq (h : ClipStep clips actions clips' actions') {name : String}
    (hwas : ∃ clip ∈ clips, clip.name = name) (hgone : ∀ clip ∈ clips', clip.name ≠ name) :
    clips' = clips.filter (·.name != name) ∧ actions' = replayed name none actions ∨
      ∃ new, clips' = change (·.name == name) (fun clip => { clip with name := new }) clips ∧
        actions' = replayed name (some new) actions := by
  obtain ⟨clip, hclip, rfl⟩ := hwas
  cases h with
  | keep hnames h =>
    obtain ⟨clip', hclip', heq⟩ := mem_map.1 (hnames ▸ mem_map_of_mem hclip)
    exact absurd heq (hgone clip' hclip')
  | add _ => exact absurd rfl (hgone clip (mem_append_left _ hclip))
  | remove gone =>
    have heq : gone = clip.name := by
      by_contra hne
      exact hgone clip (mem_filter.2 ⟨hclip, by simpa using Ne.symm hne⟩) rfl
    exact .inl ⟨heq ▸ rfl, heq ▸ rfl⟩
  | @rename old new h =>
    have heq : old = clip.name := by
      by_contra hne
      exact hgone clip (mem_map.2 ⟨clip, hclip, if_neg (by simpa using Ne.symm hne)⟩) rfl
    exact .inr ⟨new, heq ▸ rfl, heq ▸ rfl⟩

end Clips

/-! ### What an operation does to references -/

structure Intact (db : Database) : Prop where
  parameters : Owned ParameterizedCommand.name Parameter.command db.parameterizedCommands db.parameters
  stores : Owned StoredScript.command ScriptStore.script db.scripts db.scriptStores
  clips : Playable db.soundboard db.raidActions

/-- What may become of the tables between which there are references. -/
structure Step (db db' : Database) : Prop where
  parameters : OwnedStep ParameterizedCommand.name Parameter.command db.parameterizedCommands db.parameters
    db'.parameterizedCommands db'.parameters
  stores : OwnedStep StoredScript.command ScriptStore.script db.scripts db.scriptStores db'.scripts db'.scriptStores
  clips : ClipStep db.soundboard db.raidActions db'.soundboard db'.raidActions

def linked (db : Database) : (List ParameterizedCommand × List Parameter) × (List StoredScript × List ScriptStore) ×
    List SoundboardCommand × List RaidAction :=
  ((db.parameterizedCommands, db.parameters), (db.scripts, db.scriptStores), db.soundboard, db.raidActions)

theorem Step.of_linked (h : linked db' = linked db) : Step db db' := by
  simp only [linked, Prod.mk.injEq] at h
  obtain ⟨⟨hcommands, hparameters⟩, ⟨hscripts, hstores⟩, hclips, hactions⟩ := h
  exact ⟨hcommands ▸ hparameters ▸ .refl, hscripts ▸ hstores ▸ .refl, hclips ▸ hactions ▸ .refl⟩

/-- Whenever an operation is not refused, its effect on references is one of these. -/
def Operation.Steps (o : Operation α) : Prop := ∀ db a db', o.run db = .ok (a, db') → Step db db'

theorem Operation.Steps.map (h : o.Steps) (f : α → β) : (o.map f).Steps := by
  intro db b db' hrun
  have hbind : (o.action >>= fun a => pure (f a)) db = .ok (b, db') := hrun
  obtain ⟨a, _, ha, hpure⟩ := ok_of_bind hbind
  cases hpure
  exact h db a db' ha

/-! #### Operations on other tables -/

def Looks (x : Transaction α) : Prop := ∀ db a db', x db = .ok (a, db') → db' = db

def Apart (db : Database) (x : Transaction α) : Prop := ∀ a db', x db = .ok (a, db') → linked db' = linked db

theorem looks_pure (a : α) : Looks (pure a) := by
  rintro db b db' h
  cases h
  rfl

theorem looks_throw (fault : Fault) : Looks (throw fault : Transaction α) := by
  rintro db b db' h
  cases h

theorem looks_only? (fits : α → Bool) (rows : List α) : Looks (only? fits rows) := fun _ _ _ h => (eq_of_only? h).1

theorem looks_requireFound (subject : Subject) (row : Option α) : Looks (requireFound subject row) :=
  fun _ _ _ h => (ok_of_requireFound h).2

theorem looks_refuseExisting (subject : Subject) (row : Option α) : Looks (refuseExisting subject row) :=
  fun _ _ _ h => (eq_of_refuseExisting h).2

variable {x : Transaction α} {k : α → Transaction β}

theorem Looks.apart (h : Looks x) : Apart db x := fun a db' hrun => by rw [h db a db' hrun]

theorem apart_modify {f : Database → Database} (h : linked (f db) = linked db) : Apart db (modify f) := by
  rintro a db' hrun
  cases hrun
  exact h

theorem apart_set (h : linked db' = linked db) : Apart db (set db') := by
  rintro a db' hrun
  cases hrun
  exact h

theorem apart_get {k : Database → Transaction β} (h : Apart db (k db)) : Apart db (get >>= k) := h

theorem Looks.bind (hx : Looks x) (hk : ∀ a, Apart db (k a)) : Apart db (x >>= k) := by
  intro b db' hrun
  obtain ⟨a, between, ha, hb⟩ := ok_of_bind hrun
  obtain rfl := hx db a between ha
  exact hk a b db' hb

theorem Apart.bind (hx : Apart db x) (hk : ∀ a, Looks (k a)) : Apart db (x >>= k) := by
  intro b db' hrun
  obtain ⟨a, between, ha, hb⟩ := ok_of_bind hrun
  rw [hk a between b db' hb]
  exact hx a between ha

theorem steps_of_apart (h : ∀ db, Apart db o.action) : o.Steps :=
  fun db a db' hrun => .of_linked (h db a db' hrun)

/-! #### Operations on rows that are referred to -/

theorem steps_addParameterizedCommand (response : String) (parameters : List String) :
    (addParameterizedCommand name response parameters).Steps := by
  intro db row db' h
  obtain ⟨-, hadd⟩ := ok_of_refusing h
  cases hadd
  refine ⟨.add _ fun part hpart => ?_, .refl, .refl⟩
  obtain ⟨_, -, rfl⟩ := mem_map.1 hpart
  rfl

theorem step_withoutParameterized : Step db (withoutParameterized name db) := ⟨.remove name, .refl, .refl⟩

theorem step_withoutScript : Step db (withoutScript command db) := ⟨.refl, .remove command, .refl⟩

theorem step_withoutSoundboard : Step db (withoutSoundboard name db) := ⟨.refl, .refl, .remove name⟩

theorem steps_removeParameterizedCommand : (removeParameterizedCommand name).Steps := by
  intro db u db' h
  rw [eq_of_required h]
  exact step_withoutParameterized name

theorem steps_removeSoundboard : (removeSoundboardCommand name).Steps := by
  intro db u db' h
  rw [eq_of_required h]
  exact step_withoutSoundboard name

theorem steps_removeCommand : (removeCommandCaseInsensitive name).Steps := by
  intro db found db' h
  obtain ⟨-, rfl⟩ | ⟨-, ⟨_, -, -, rfl⟩ | ⟨_, -, -, rfl⟩ | ⟨_, -, -, rfl⟩ | ⟨_, -, -, rfl⟩⟩ := ok_of_removeCommand h
  · exact .of_linked rfl
  · exact .of_linked rfl
  · exact step_withoutParameterized _
  · exact step_withoutSoundboard _
  · exact step_withoutScript _

theorem steps_addScript (source json : String) (stores : List NewStore) :
    (addScript command source json stores).Steps := by
  intro db row db' h
  obtain ⟨-, -, rfl⟩ := ok_of_addScript h
  refine ⟨.refl, .add row fun part hpart => ?_, .refl⟩
  obtain ⟨_, -, rfl⟩ := mem_map.1 hpart
  rfl

theorem steps_removeScript : (removeScript command).Steps := by
  intro db found db' h
  obtain ⟨_, _, hget, hrest⟩ := ok_of_bind h
  cases hget
  cases hfind : db.scripts.find? (·.command == command) with
  | none =>
    rw [hfind] at hrest
    cases hrest
    exact .of_linked rfl
  | some script =>
    rw [hfind] at hrest
    cases hrest
    exact step_withoutScript command

theorem steps_updateScriptStoreValue (script store text : String) : (updateScriptStoreValue script store text).Steps := by
  intro db u db' h
  rw [eq_of_required h]
  refine ⟨.refl, .keep fun part hpart => ?_, .refl⟩
  obtain ⟨row, hrow, rfl⟩ := mem_map.1 hpart
  refine ⟨row, hrow, ?_⟩
  split <;> rfl

theorem steps_addSoundboard (filename : String) (uploader : Uploader) :
    (addSoundboardCommand name filename uploader).Steps := by
  intro db row db' h
  obtain ⟨-, rfl⟩ := ok_of_addSoundboard h
  exact ⟨.refl, .refl, .add row⟩

theorem steps_renameSoundboard (old new : String) : (updateSoundboardCommandName old new).Steps := by
  intro db u db' h
  obtain ⟨hold, rfl⟩ := ok_of_renameSoundboard h
  exact ⟨.refl, .refl, .rename new hold⟩

theorem steps_adjustSoundboard (volume : Float) : (updateSoundboardCommandVolume name volume).Steps := by
  intro db u db' h
  obtain ⟨row, -, -, rfl⟩ := ok_of_adjustSoundboard h
  refine ⟨.refl, .refl, .keep ?_ fun action haction => .inl ⟨action, haction, rfl⟩⟩
  rw [adjustedSoundboard, change, map_map]
  refine map_congr_left fun clip _ => ?_
  rw [Function.comp_apply]
  split <;> rfl

theorem exists_of_clipExists {clip : Option String} (h : clipExists db clip) :
    ∀ name ∈ clip, ∃ row ∈ db.soundboard, row.name = name := by
  rintro name rfl
  simpa [clipExists] using h

theorem steps_addRaidAction (message clip : Option String) (shoutout : Bool) :
    (addRaidEventAction user message clip shoutout).Steps := by
  intro db u db' h
  obtain ⟨_, _, hget, hrest⟩ := ok_of_bind h
  cases hget
  split at hrest
  · cases hrest
  · next hfits =>
    cases hrest
    refine ⟨.refl, .refl, .keep rfl fun action haction => ?_⟩
    rcases mem_append.1 haction with haction | haction
    · exact .inl ⟨action, haction, rfl⟩
    · rw [mem_singleton.1 haction]
      rw [Bool.or_eq_true, not_or, Bool.not_eq_true', Bool.not_eq_false] at hfits
      exact .inr (exists_of_clipExists hfits.2)

theorem steps_updateRaidAction (message clip : Option String) (shoutout : Bool) :
    (updateRaidEventAction user message clip shoutout).Steps := by
  intro db u db' h
  obtain ⟨row, -, -, hwrite⟩ := ok_of_only_required h
  split at hwrite
  · cases hwrite
  · next hclip =>
    cases hwrite
    refine ⟨.refl, .refl, .keep rfl fun action haction => ?_⟩
    obtain ⟨old, hold, rfl⟩ := mem_map.1 haction
    split
    · exact .inr (exists_of_clipExists (by simpa using hclip))
    · exact .inl ⟨old, hold, rfl⟩

theorem steps_deleteRaidAction : (deleteRaidEventAction user).Steps := by
  intro db u db' h
  obtain ⟨row, -, -, hwrite⟩ := ok_of_only_required h
  cases hwrite
  exact ⟨.refl, .refl, .keep rfl fun action haction => .inl ⟨action, (mem_filter.1 haction).1, rfl⟩⟩

/-! #### All operations -/

/-- Every operation with a name steps: those on rows that are referred to by their lemmas, and the others because what they
write is apart from references. -/
theorem steps_of_mem (now : Time.Instant) (a : Json) :
    ∀ o ∈ Call.texts a ++ Call.commands a ++ Call.users now a ++ Call.streams now a, o.Steps := by
  simp only [forall_mem_append]
  refine ⟨⟨⟨?_, ?_⟩, ?_⟩, ?_⟩
  all_goals
    dsimp only [Call.texts, Call.commands, Call.users, Call.streams, Call.silent, storeConfigurationSetting,
      retrieveConfigurationSetting, retrieveConfigurationSettingOrRaise, addBroadcast, removeBroadcast, updateBroadcast,
      getBroadcasts, addConstant, removeConstant, getConstants, addDictionaryEntry, updateDictionaryEntryCaseInsensitive,
      removeDictionaryEntryCaseInsensitive, getDictionaryEntryCaseInsensitive, getDictionaryEntries, addTranslation,
      removeTranslation, getTranslations, addOrUpdateCachedSourceCode, getCachedSourceCode, deleteCachedSourceCode,
      addStaticCommand, removeStaticCommand, getStaticCommands, getParameterizedCommands, getSoundboardCommands,
      getScripts, getScript, getScriptStore, addOrUpdateTwitchTokenSet, getTwitchTokenSet, deleteTwitchTokenSet,
      addPendingSoundboardClip, updatePendingSoundboardClip, removePendingSoundboardClip, getNumberOfPendingSoundboardClips,
      getAllPendingSoundboardClips, getPendingSoundboardClipsByTwitchUserId, addEntranceSound, getAllEntrySounds,
      getEntranceSoundByTwitchUserId, deleteEntranceSound, upsertUserProfile, getUserProfile, deleteUserProfile,
      markEmailAsVerified, addEmailVerificationToken, getEmailVerificationToken, deleteEmailVerificationToken,
      purgeExpiredEmailVerificationTokens, addNotification, getNotification, getNotifications, markNotificationAsRead,
      markNotificationAsUnread, markNotification, deleteNotification, addLiveNotificationChannel,
      getLiveNotificationChannels, updateLiveNotificationChannel, removeLiveNotificationChannel,
      addOrUpdateReceivedTwitchMessage, purgeReceivedTwitchMessages, hasTwitchMessageBeenReceived, getRaidEventActions,
      getGeneralRaidEventAction, getRaidEventActionById, getRaidEventActionByTwitchUser]
    repeat' with_reducible refine forall_mem_cons.2 ⟨?_, ?_⟩
  all_goals with_reducible first
    | exact forall_mem_nil _
    | exact (steps_addParameterizedCommand _ _ _).map _
    | exact (steps_removeParameterizedCommand _).map _
    | exact (steps_removeCommand _).map _
    | exact (steps_addScript _ _ _ _).map _
    | exact (steps_removeScript _).map _
    | exact (steps_updateScriptStoreValue _ _ _).map _
    | exact (steps_addSoundboard _ _ _).map _
    | exact (steps_removeSoundboard _).map _
    | exact (steps_renameSoundboard _ _).map _
    | exact (steps_adjustSoundboard _ _).map _
    | exact (steps_addRaidAction _ _ _ _).map _
    | exact (steps_updateRaidAction _ _ _ _).map _
    | exact (steps_deleteRaidAction _).map _
    | refine (steps_of_apart fun db => ?_).map _
  all_goals
    repeat' with_reducible first
      | exact apart_modify rfl
      | exact apart_set rfl
      | exact (looks_pure _).apart
      | exact looks_pure _
      | refine apart_get ?_
      | refine (looks_throw _).bind fun _ => ?_
      | refine (looks_requireFound _ _).bind fun _ => ?_
      | refine (looks_refuseExisting _ _).bind fun _ => ?_
      | refine (looks_only? _ _).bind fun _ => ?_
      | exact (looks_only? _ _).apart
      | exact (looks_requireFound _ _).apart
      | refine Apart.bind ?_ fun _ => ?_
      | split
      | refine apart_modify ?_
  all_goals rfl

theorem steps_operation (now : Time.Instant) (name : String) (a : Json) : (Call.operation now name a).Steps := by
  rw [Call.operation]
  split
  · exact (steps_of_apart fun db => (looks_pure _).apart).map _
  · cases hfind : (Call.texts a ++ Call.commands a ++ Call.users now a ++ Call.streams now a).find? (·.name == name) with
    | none => exact steps_of_apart fun db => (looks_pure _).apart
    | some o => exact steps_of_mem now a o (mem_of_find?_eq_some hfind)

theorem Step.intact (h : Step db db') (hintact : Intact db) : Intact db' :=
  ⟨h.parameters.owned hintact.parameters, h.stores.owned hintact.stores, h.clips.playable hintact.clips⟩

/-! ### Histories -/

structure Invocation where
  now : Time.Instant
  name : String
  arguments : Json

def Invocation.perform (c : Invocation) : BotM Json := Bot.perform (Call.operation c.now c.name c.arguments)

/-- The bot after some calls; before the first one the tables are empty. -/
def afterInvocations (bot : Bot) (calls : List Invocation) : Bot :=
  calls.foldl (fun bot c => (c.perform bot).2) { bot with database := {} }

theorem step_perform (c : Invocation) (bot : Bot) : Step bot.database (c.perform bot).2.database := by
  rcases hperform : c.perform bot with ⟨fault | result, bot'⟩
  · rw [Bot.eq_of_perform_error hperform]
    exact .of_linked rfl
  · obtain ⟨db', hrun, rfl⟩ := Bot.ok_of_perform hperform
    exact steps_operation _ _ _ _ _ _ hrun

theorem intact_afterInvocations (bot : Bot) (calls : List Invocation) : Intact (afterInvocations bot calls).database := by
  refine List.foldlRecOn (motive := fun bot : Bot => Intact bot.database) calls _ ?_ fun bot hintact c _ => ?_
  · exact ⟨forall_mem_nil _, forall_mem_nil _, forall_mem_nil _⟩
  · exact (step_perform c bot).intact hintact

/-- What goes with rows that are gone, and what is changed with clips that are. -/
structure Follows (db db' : Database) : Prop where
  parameters : ∀ name, (∃ row ∈ db.parameterizedCommands, row.name = name) →
    (∀ row ∈ db'.parameterizedCommands, row.name ≠ name) → db'.parameters = db.parameters.filter (·.command != name)
  stores : ∀ command, (∃ row ∈ db.scripts, row.command = command) →
    (∀ row ∈ db'.scripts, row.command ≠ command) → db'.scriptStores = db.scriptStores.filter (·.script != command)
  clips : ∀ name, (∃ row ∈ db.soundboard, row.name = name) → (∀ row ∈ db'.soundboard, row.name ≠ name) →
    db'.soundboard = db.soundboard.filter (·.name != name) ∧ db'.raidActions = replayed name none db.raidActions ∨
      ∃ new, db'.soundboard = change (·.name == name) (fun row => { row with name := new }) db.soundboard ∧
        db'.raidActions = replayed name (some new) db.raidActions

theorem Step.follows (h : Step db db') : Follows db db' :=
  ⟨fun _ => h.parameters.parts_eq, fun _ => h.stores.parts_eq, fun _ => h.clips.actions_eq⟩

/-- After any calls every reference leads to a row that is there.  The next call, if it fails, changes nothing; if rows go, so
do exactly the rows that belong to them; the raids that play a clip, and no others, play it under its new name when it is
renamed and play none when it is removed. -/
theorem references_intact (bot : Bot) (calls : List Invocation) : Intact (afterInvocations bot calls).database ∧
      (∀ (c : Invocation) fault after, c.perform (afterInvocations bot calls) = (.error fault, after) →
        after = afterInvocations bot calls) ∧
      (∀ c : Invocation, Follows (afterInvocations bot calls).database (c.perform (afterInvocations bot calls)).2.database) ∧
      (∀ old new u after, Bot.perform (updateSoundboardCommandName old new) (afterInvocations bot calls) = (.ok u, after) →
        after.database.raidActions = replayed old (some new) (afterInvocations bot calls).database.raidActions) ∧
      ∀ name u after, Bot.perform (removeSoundboardCommand name) (afterInvocations bot calls) = (.ok u, after) →
        after.database.raidActions = replayed name none (afterInvocations bot calls).database.raidActions := by
  refine ⟨intact_afterInvocations bot calls, fun c fault after hfail => Bot.eq_of_perform_error hfail,
    fun c => (step_perform c _).follows, fun old new u after hrename => ?_, fun name u after hremove => ?_⟩
  · obtain ⟨db', hrun, rfl⟩ := Bot.ok_of_perform hrename
    obtain ⟨-, rfl⟩ := ok_of_renameSoundboard hrun
    rfl
  · obtain ⟨db', hrun, rfl⟩ := Bot.ok_of_perform hremove
    rw [eq_of_required hrun]
    rfl

end StreamBot.Database
