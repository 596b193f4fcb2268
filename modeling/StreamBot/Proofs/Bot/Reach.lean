import StreamBot.Proofs.Bot.CommandTables
import StreamBot.Proofs.Bot.NewScripts
import StreamBot.Station.Chats

/-! # How far messages reach

A message is answered, words in it are explained, its sender may be greeted, and the command that it calls is carried out.
All but the last changes only what every message may change; a view of the bot that does not show this (`Casual`) is left
as it is.  A view may show what is played and who was greeted, if it does not show what answers change (`Reserved`).  So is
it by the commands that everybody may call, scripts included, apart from entering a giveaway (`Does`, `handle_does`); and
what a whole message does to such a view is what its command does (`process_view`).

Managing words leaves all but the words as it is (`leaves_manageDictionary`), and managing commands all but their tables
(`manageCommands_view`), as far as removing a command by its name does (`Spares`).
-/

namespace StreamBot

open Database

open Chat (Handler Message)
open Script (Act Host StoreKey Value)

variable {handler : Handler} {message : Message}
variable (key : Chat.TranslationKey)

namespace Bot

variable {α τ : Type} {view : Bot → τ} {bot : Bot} {host : Host Bot}

/-! ### What every message may change -/

/-- A view of the bot that does not show what answers change: what the services were told, when words were explained, and
the stores of scripts. -/
structure Reserved (view : Bot → τ) : Prop where
  journal : ∀ bot entries, view { bot with journal := entries } = view bot
  lastUses : ∀ bot uses, view { bot with dictionary := { bot.dictionary with lastUses := uses } } = view bot
  pausesLeft : ∀ bot pauses, view { bot with pausesLeft := pauses } = view bot
  scriptStores : ∀ bot rows, view { bot with database := { bot.database with scriptStores := rows } } = view bot

/-- A view of the bot that does not show what every message may change: what is played for listeners and who was greeted
neither. -/
structure Casual (view : Bot → τ) : Prop extends Reserved view where
  listeners : ∀ bot listeners, view { bot with listeners } = view bot
  greeted : ∀ bot users, view { bot with greeted := users } = view bot

theorem leaves_constants : Leaves view constants := (leaves_read fun _ => rfl).returns

theorem leaves_fillTimes (text : String) : Leaves view (fillTimes text) :=
  (leaves_settingOr _ _).bind fun _ => (leaves_settingOr _ _).bind fun _ => leaves_get.returns

theorem leaves_fillResponse (message : Message) (text : String) : Leaves view (fillResponse message text) :=
  leaves_constants.bind fun _ => (leaves_fillTimes _).returns

theorem leaves_note (h : Reserved view) (entry : Service.Entry) : Leaves view (note entry) :=
  leaves_modify fun bot => h.journal bot _

theorem leaves_play (h : Casual view) (clip : Soundboard.Clip) : Leaves view (play clip) := by
  refine leaves_modify fun bot => ?_
  split
  · exact h.listeners bot _
  · rfl

theorem leaves_greet (h : Casual view) (entrance : Entrance) : Leaves view (greet entrance) :=
  Leaves.bind (leaves_modify (by intro bot; exact h.greeted bot _)) fun _ => leaves_play h _

theorem leaves_explain (h : Reserved view) (message : Message) : Leaves view (explain message) := by
  intro bot
  have hexplain (d : Chat.Dictionary) (platform : Chat.Platform) (now : Float) (text : String) :
      ∃ uses, (d.explain platform now text).1 = { d with lastUses := uses } := by
    rw [Chat.Dictionary.explain]
    split <;> exact ⟨_, rfl⟩
  obtain ⟨uses, huses⟩ := hexplain bot.dictionary message.platform bot.clock.monotonic message.text
  rw [explain, run_get_bind]
  dsimp only
  rw [huses]
  exact h.lastUses bot uses

theorem leaves_say (h : Reserved view) (text : String) : Leaves view (Station.say text) := by
  refine leaves_get.bind fun bot => ?_
  split
  · exact leaves_note h _
  · exact leaves_pure _

theorem leaves_respond (h : Reserved view) (channel : Service.Channel) (texts : List String) :
    Leaves view (Station.respond channel texts) := by
  induction texts generalizing channel with
  | nil => exact leaves_pure _
  | cons text texts ih =>
    rw [Station.respond]
    dsimp only
    split
    · exact (leaves_note h _).bind fun _ => ih _
    · split
      · exact (leaves_note h _).bind fun _ => ih _
      · exact ih _

theorem leaves_answer (h : Reserved view) (incoming : Station.Incoming) (texts : List String) :
    Leaves view (Station.answer incoming texts) := by
  rw [Station.answer]
  split
  · exact Along.forM (leaves_say h)
  · exact leaves_respond h _ _

/-! ### Scripts -/

theorem leaves_onBehalf {x : BotM α} (hx : Leaves view x) : Leaves view (onBehalf x) := by
  intro bot
  have h := hx bot
  rw [onBehalf]
  rcases hrun : x bot with ⟨fault | a, after⟩
  · rw [hrun] at h
    exact h
  · rw [hrun] at h
    exact h

theorem leaves_readInto (found : Dict StoreKey Value) (key : StoreKey) : Leaves view (readInto found key) := by
  have hread : Leaves view (readStore key) := by
    refine (leaves_onBehalf (leaves_read fun _ => rfl)).bind fun row => ?_
    split
    · exact leaves_pure _
    · split <;> simp
  refine hread.bind fun value => ?_
  split <;> simp

theorem leaves_writeStore (h : Reserved view) (p : StoreKey × Value) : Leaves view (writeStore p) := by
  refine leaves_onBehalf (leaves_perform fun bot a db hrun => ?_)
  rw [eq_of_required hrun]
  exact h.scriptStores bot _

theorem leaves_pause (h : Reserved view) : Leaves view pause := by
  refine leaves_get.bind fun bot => ?_
  split
  · exact leaves_pure _
  · exact leaves_throw _
  · exact leaves_modify fun bot => h.pausesLeft bot _

theorem leaves_execute (h : Reserved view) (hhost : Host.Keeps (fun s t => view t = view s) host)
    (script : Script) (arguments : List String) : Leaves view (script.execute host storeKeeper arguments) := by
  have hread (keys : List StoreKey) : Leaves view (storeKeeper.read keys) :=
    Along.foldlM leaves_readInto []
  have hwrite (values : Dict StoreKey Value) : Leaves view (storeKeeper.write values) :=
    Along.forM (leaves_writeStore h)
  refine Act.Sim.along fun start => ?_
  refine Script.execute_sim (hhost.sim start) ⟨fun keys => ?_, fun values => ?_⟩ script arguments
  · exact .of_along (hread keys) start
  · exact .of_along (hwrite values) start

theorem leaves_callScript (h : Reserved view) (hhost : Host.Keeps (fun s t => view t = view s) host)
    (name : String) (arguments : List String) : Leaves view (callScript host name arguments) := by
  refine (leaves_onBehalf (leaves_read fun _ => rfl)).bind fun row => ?_
  split
  · exact leaves_throw _
  · refine (leaves_onBehalf fun _ => rfl).bind fun script => (leaves_execute h hhost _ _).bind fun output => ?_
    split <;> simp

theorem scriptHost_keeps (h : Reserved view) (bot : Bot) : Host.Keeps (fun s t => view t = view s) bot.scriptHost :=
  Script.hostWithin_keeps (leaves_pause h) (fun _ hhost => leaves_callScript h hhost) _

theorem leaves_scriptTimeout : Leaves view scriptTimeout := by
  refine (leaves_read fun _ => rfl).bind fun text => ?_
  split
  · exact leaves_throw _
  · split
    · split
      · exact (leaves_throw _).returns
      · exact leaves_pure _
    · split
      · exact (leaves_throw _).bind fun _ => leaves_throw _
      · exact leaves_throw _

theorem leaves_runScript (h : Reserved view) (name : String) (script : Script) (arguments : List String) :
    Leaves view (runScript name script arguments) := by
  have hexecute (bot : Bot) : view (script.execute bot.scriptHost storeKeeper arguments bot).2 = view bot :=
    leaves_execute h (scriptHost_keeps h bot) script arguments bot
  refine leaves_scriptTimeout.bind fun seconds => ?_
  dsimp only
  split
  · refine Leaves.bind (leaves_modify (by intro bot; exact h.pausesLeft bot _)) fun _ bot => ?_
    exact (h.pausesLeft _ none).trans (hexecute bot)
  · intro bot
    have hsame := hexecute bot
    rw [run_get_bind]
    rcases hrun : script.execute bot.scriptHost storeKeeper arguments bot with ⟨output | fault, after⟩
    · rw [hrun] at hsame
      exact (h.pausesLeft after none).trans hsame
    · rw [hrun] at hsame
      exact (h.pausesLeft after none).trans hsame

/-! ### Managing words -/

end Bot

namespace Database

variable {db db' : Database} {word explanation : String} {u : Unit}

theorem dictionary_of_only {fits : DictionaryEntry → Bool} {subject : Subject}
    {change : DictionaryEntry → Database → List DictionaryEntry} (h : (do
      let row ← only? fits (← get).dictionary
      let row ← requireFound subject row
      modify fun db => { db with dictionary := change row db } : Transaction Unit) db = .ok (u, db')) :
    ∃ rows, db' = { db with dictionary := rows } := by
  obtain ⟨_, -, -, hwrite⟩ := ok_of_only_required h
  cases hwrite
  exact ⟨_, rfl⟩

theorem dictionary_of_add {row : DictionaryEntry} (h : (addDictionaryEntry word explanation).run db = .ok (row, db')) :
    ∃ rows, db' = { db with dictionary := rows } := by
  obtain ⟨-, hwrite⟩ := ok_of_refusing h
  cases hwrite
  exact ⟨_, rfl⟩

end Database

namespace Bot

variable {α τ : Type} {view : Bot → τ} {bot : Bot} {arguments : List String}

theorem leaves_manageDictionary (hmemory : ∀ bot words, view { bot with dictionary := words } = view bot)
    (htable : ∀ bot rows, view { bot with database := { bot.database with dictionary := rows } } = view bot)
    (message : Message) (arguments : List String) : Leaves view (manageDictionary message arguments) := by
  -- The words are changed in memory first, and then in their table.
  have hwrite {β : Type} {o : Operation β}
      (ho : ∀ db b db', o.run db = .ok (b, db') → ∃ rows, db' = { db with dictionary := rows })
      (words : Chat.Dictionary) (answer : String) (bot : Bot) :
      view ((do set { bot with dictionary := words }; let _ ← perform o; return answer) bot).2 = view bot := by
    rw [run_set_bind]
    refine Eq.trans ((?_ : Leaves view _) _) (hmemory bot words)
    refine (leaves_perform fun bot b db hrun => ?_).returns
    obtain ⟨rows, rfl⟩ := ho _ _ _ hrun
    exact htable bot rows
  have hadd (word explanation : String) : Leaves view (addWord word explanation) := by
    intro bot
    rw [addWord, run_get_bind]
    split
    · rfl
    · refine hwrite (fun _ _ _ hrun => ?_) _ _ bot
      exact dictionary_of_add hrun
  have hupdate (word explanation : String) : Leaves view (updateWord word explanation) := by
    intro bot
    rw [updateWord, run_get_bind]
    cases bot.dictionary.entries.find? fun e => Chat.Dictionary.sameWord e.word word with
    | none => rfl
    | some entry =>
      refine hwrite (fun _ _ _ hrun => ?_) _ _ bot
      exact dictionary_of_only hrun
  have hremove (word : String) : Leaves view (removeWord message word) := by
    intro bot
    rw [removeWord, run_get_bind]
    split
    · rfl
    · refine hwrite (fun _ _ _ hrun => ?_) _ _ bot
      exact dictionary_of_only hrun
  rw [manageDictionary.eq_def]
  split
  · split
    · exact (hadd _ _).returns
    · exact (hupdate _ _).returns
    · exact (hremove _).returns
    · exact leaves_pure _
  · exact leaves_pure _

/-! ### Managing commands -/

/-- A view of the bot that does not show the tables of the commands that are managed in the chat either. -/
structure Unmanaged (view : Bot → τ) : Prop extends Reserved view where
  tables : ∀ bot statics parameterized parameters scripts stores, view { bot with database := { bot.database with
    staticCommands := statics
    parameterizedCommands := parameterized
    parameters := parameters
    scripts := scripts
    scriptStores := stores } } = view bot

/-- Removing a command by its name leaves the view as it is. -/
def Spares (view : Bot → τ) (bot : Bot) (name : String) : Prop :=
  view (perform (removeCommandCaseInsensitive name) bot).2 = view bot

theorem spares_of_tables (h : ∀ bot db, view { bot with database := db } = view bot) (name : String) : Spares view bot name :=
  leaves_perform (fun bot _ db _ => h bot db) bot

/-- What holds of a computation that begins with one that only looks. -/
theorem bind_of_reads {β : Type} {P : Except Fault β × Bot → Prop} {x : BotM α} {k : α → BotM β} (hx : Leaves id x)
    (hfails : ∀ fault, P (.error fault, bot)) (hk : ∀ a, x bot = (.ok a, bot) → P (k a bot)) : P ((x >>= k) bot) := by
  have hsame : (x bot).2 = bot := hx bot
  obtain ⟨a, t, hrun, hbind⟩ | ⟨e, t, hrun, hbind⟩ := run_bind x k bot
  · rw [hrun] at hsame
    obtain rfl : t = bot := hsame
    rw [hbind]
    exact hk a hrun
  · rw [hrun] at hsame
    obtain rfl : t = bot := hsame
    rw [hbind]
    exact hfails e

theorem leaves_patternOf (name : String) : Leaves view (patternOf name) := by
  rw [patternOf]
  split <;> simp

theorem leaves_overlapping? (pattern : Trigger.Pattern) (names : List String) :
    Leaves view (overlapping? pattern names) := by
  induction names with
  | nil => exact leaves_pure _
  | cons name rest ih =>
    refine (leaves_patternOf name).bind fun other => ?_
    split
    · exact leaves_pure _
    · exact ih

theorem mem_of_overlapping? {pattern : Trigger.Pattern} {names : List String} {found : String} {after : Bot}
    (h : overlapping? pattern names bot = (.ok (some found), after)) : found ∈ names := by
  induction names generalizing bot with
  | nil => cases h
  | cons name rest ih =>
    obtain ⟨other, between, -, hrest⟩ := run_ok_of_bind h
    split at hrest
    · cases hrest
      exact List.mem_cons_self
    · exact List.mem_cons_of_mem _ (ih hrest)

theorem leaves_translation : Leaves view (translation key) :=
  leaves_get.returns

theorem leaves_refused : Leaves view (refused key) :=
  (leaves_translation key).returns

theorem leaves_done : Leaves view (done key) :=
  (leaves_translation key).returns

theorem leaves_storeCommand (h : Unmanaged view) (name response : String) (parameters : List String) :
    Leaves view (storeCommand name response parameters) := by
  cases parameters with
  | nil | cons =>
    refine (leaves_perform fun bot a db hrun => ?_).returns
    obtain ⟨-, hwrite⟩ := ok_of_refusing hrun
    cases hwrite
    exact h.tables bot _ _ _ _ _

theorem leaves_loadHandlers : Leaves view loadHandlers := by
  have hlift (handlers : Except Fault (List Handler)) : Leaves view (liftM handlers : BotM (List Handler)) := fun _ => rfl
  refine (leaves_read fun _ => rfl).bind fun _ => (hlift _).bind fun _ => ?_
  refine (leaves_read fun _ => rfl).bind fun _ => (hlift _).bind fun _ => ?_
  refine (leaves_read fun _ => rfl).bind fun _ => (hlift _).bind fun _ => ?_
  exact (leaves_read fun _ => rfl).bind fun _ => (hlift _).returns

theorem leaves_reloadHandlers (h : ∀ bot handlers, view { bot with handlers } = view bot) : Leaves view reloadHandlers :=
  Leaves.bind (leaves_modify (by intro bot; exact h bot _)) fun _ => leaves_loadHandlers.bind fun _ =>
    leaves_modify fun bot => h bot _

def responseNames (db : Database) : List String :=
  db.staticCommands.map (·.name) ++ db.parameterizedCommands.map (·.name)

/-- How an attempt to change the commands goes.  Unless it fails or is refused, the tables are changed at its end. -/
inductive Course (bot : Bot) : List String → Except Fault Outcome × Bot → Prop where
  | failed {message : List String} (fault : Fault) {after : Bot} (same : after = { bot with journal := after.journal }) :
      Course bot message (.error fault, after)
  | refused {message : List String} (text : String) {after : Bot} (same : after = { bot with journal := after.journal }) :
      Course bot message (.ok ⟨false, text⟩, after)
  | stored {word name response : String} {parameters : List String} {p : Trigger.Pattern} (said : Text.lower word = "add")
      (named : Trigger.ofName (nameArgument name) = .ok p)
      (free : bot.handlers.any (fun other => Trigger.overlap p other.pattern) = false) (key : Chat.TranslationKey) :
      Course bot (word :: name :: response :: parameters)
        ((storeCommand (nameArgument name) response parameters >>= fun _ => done key) bot)
  | replaced {word name response existing : String} {parameters : List String} {p : Trigger.Pattern}
      (said : Text.lower word = "update") (named : Trigger.ofName (nameArgument name) = .ok p)
      (found : existing ∈ responseNames bot.database) (same : Text.lower existing = Text.lower (nameArgument name))
      (key : Chat.TranslationKey) : Course bot (word :: name :: response :: parameters)
        ((perform (removeCommandCaseInsensitive existing) >>= fun _ =>
          storeCommand (nameArgument name) response parameters >>= fun _ => done key) bot)
  | scripted {word name source : String} {rest : List String} {p : Trigger.Pattern} {prepared : PreparedScript} {before : Bot}
      {text : String} {script : Script} {values : Dict Script.StoreKey Script.Value}
      (said : Text.lower word = "add-script") (named : Trigger.ofName (nameArgument name) = .ok p)
      (free : bot.handlers.any (fun other => Trigger.overlap p other.pattern) = false)
      (takes : bot.TakesFrom (nameArgument name) source before text)
      (readies : before.Readies (nameArgument name) text prepared script values) (key : Chat.TranslationKey) :
      Course bot (word :: name :: source :: rest) ((perform (Database.addScript (nameArgument name) source prepared.json
        prepared.stores) >>= fun _ => done key) before)
  | removed {word name : String} {rest : List String} {handler : Handler} (said : Text.lower word = "remove")
      (found : bot.handlers.find? (·.pattern.matches (Text.lower (nameArgument name))) = some handler)
      (other : handler.isClip = false) (key key' : Chat.TranslationKey) : Course bot (word :: name :: rest)
        ((perform (removeCommandCaseInsensitive handler.name) >>= fun gone => if gone then done key else refused key') bot)

variable {word : String}

theorem addOrUpdate_course (isUpdate : Bool) (hword : Text.lower word = if isUpdate then "update" else "add")
    (argument response : String) (parameters : List String) : Course bot (word :: argument :: response :: parameters)
      (addOrUpdate isUpdate argument response parameters bot) := by
  have hread {β : Type} {o : Operation β} {read : Database → β} (ho : ∀ db, o.run db = .ok (read db, db)) :
      Leaves id (perform o) := leaves_read ho
  have hfails (fault : Fault) : Course bot (word :: argument :: response :: parameters) (.error fault, bot) :=
    .failed fault rfl
  refine bind_of_reads (leaves_patternOf _) hfails fun p hp => ?_
  have hname := (ok_of_patternOf hp).1
  refine bind_of_reads (hread fun _ => rfl) hfails fun clips _ => ?_
  refine bind_of_reads (leaves_overlapping? _ _) hfails fun clip _ => ?_
  split
  · exact .refused _ rfl
  refine bind_of_reads (hread fun _ => rfl) hfails fun scripts _ => ?_
  refine bind_of_reads (leaves_overlapping? _ _) hfails fun script _ => ?_
  split
  · exact .refused _ rfl
  refine bind_of_reads (hread fun _ => rfl) hfails fun statics hstatics => ?_
  refine bind_of_reads (hread fun _ => rfl) hfails fun parameterized hparameterized => ?_
  refine bind_of_reads (leaves_overlapping? _ _) hfails fun found hfound => ?_
  cases found with
  | none =>
    have hrun : handlerOverlaps p bot = (.ok (bot.handlers.any fun other => Trigger.overlap p other.pattern), bot) := rfl
    dsimp only
    rw [run_bind_of_ok hrun]
    split
    · exact .refused _ rfl
    rename_i hfree
    split
    · exact .refused _ rfl
    · exact .stored (by simp_all) hname (by simpa using hfree) _
  | some existing =>
    dsimp only
    split
    · exact .refused _ rfl
    split
    · exact .refused _ rfl
    · rename_i hsame
      have hmem : existing ∈ responseNames bot.database := by
        obtain ⟨db, hrun, -⟩ := ok_of_perform hstatics
        obtain ⟨db', hrun', -⟩ := ok_of_perform hparameterized
        cases hrun
        cases hrun'
        simpa [responseNames] using mem_of_overlapping? hfound
      exact .replaced (by simp_all) hname hmem (by simpa using hsame) _

theorem addScript_course (hword : Text.lower word = "add-script") (argument source : String) (rest : List String) :
    Course bot (word :: argument :: source :: rest) (addScript argument source bot) := by
  refine bind_of_reads (leaves_patternOf _) (fun fault => .failed fault rfl) fun p hp => ?_
  have hrun : handlerOverlaps p bot = (.ok (bot.handlers.any fun other => Trigger.overlap p other.pattern), bot) := rfl
  rw [run_bind_of_ok hrun]
  split
  · exact .refused _ rfl
  rename_i hfree
  obtain ⟨found, before, hfind, hbefore, hfound⟩ := findScript_cases (nameArgument argument) source bot
  rw [run_bind_of_ok hfind]
  cases found with
  | error text => exact .refused text hbefore
  | ok prepared =>
    obtain ⟨text, script, values, htakes, hreadies⟩ := hfound prepared rfl
    exact .scripted hword (ok_of_patternOf hp).1 (by simpa using hfree) htakes hreadies _

theorem removeCommand_course (hword : Text.lower word = "remove") (argument : String) (rest : List String) :
    Course bot (word :: argument :: rest) (removeCommand argument bot) := by
  rw [removeCommand, run_get_bind]
  cases hfind : bot.handlers.find? (·.pattern.matches (Text.lower (nameArgument argument))) with
  | none => exact .refused _ rfl
  | some handler =>
    dsimp only
    split
    · exact .refused _ rfl
    · rename_i hclip
      exact .removed hword hfind (by simpa using hclip) _ _

theorem manage_course (message : List String) (bot : Bot) : manage message = pure none ∨
    ∃ attempt : BotM Outcome, manage message = some <$> attempt ∧ Course bot message (attempt bot) := by
  rw [manage.eq_def]
  split
  · split
    · exact .inr ⟨_, rfl, addOrUpdate_course false ‹_› _ _ _⟩
    · exact .inr ⟨_, rfl, addScript_course ‹_› _ _ _⟩
    · exact .inr ⟨_, rfl, addOrUpdate_course true ‹_› _ _ _⟩
    · exact .inr ⟨_, rfl, removeCommand_course ‹_› _ _⟩
    · exact .inl rfl
  · exact .inl rfl

section View

variable (h : Unmanaged view) (hupdate : ∀ name ∈ responseNames bot.database, Spares view bot name)
  (hremove : ∀ text handler, bot.handlers.find? (·.pattern.matches text) = some handler → handler.isClip = false →
    Spares view bot handler.name)

include h hupdate hremove

theorem manage_view (arguments : List String) : view (manage arguments bot).2 = view bot := by
  have hjournal {after : Bot} (same : after = { bot with journal := after.journal }) : view after = view bot := by
    rw [same]
    exact h.journal bot _
  have hstore (name response : String) (parameters : List String) (key : Chat.TranslationKey) :
      Leaves view (storeCommand name response parameters >>= fun _ => done key) :=
    (leaves_storeCommand h _ _ _).bind fun _ => leaves_done _
  obtain hnone | ⟨attempt, hsome, hcourse⟩ := manage_course arguments bot
  · rw [hnone]
    rfl
  rw [hsome, BotM.map_run]
  dsimp only
  generalize attempt bot = result at hcourse ⊢
  cases hcourse with
  | failed _ same | refused _ same => exact hjournal same
  | stored => exact hstore _ _ _ _ bot
  | replaced _ _ found => exact (view_bind (fun _ => hstore _ _ _ _) bot).trans (hupdate _ found)
  | scripted _ _ _ takes =>
    refine Eq.trans ((?_ : Leaves view _) _) (hjournal takes.eq)
    refine (leaves_perform fun bot a db hrun => ?_).bind fun _ => leaves_done _
    obtain ⟨-, -, rfl⟩ := Database.ok_of_addScript hrun
    exact h.tables bot _ _ _ _ _
  | removed _ found other =>
    refine (view_bind (fun gone => ?_) bot).trans (hremove _ _ found other)
    split
    · exact leaves_done _
    · exact leaves_refused _

theorem manageCommands_view (hhandlers : ∀ bot handlers, view { bot with handlers } = view bot) (arguments : List String) :
    view (manageCommands arguments bot).2 = view bot := by
  refine (view_bind (fun outcome => ?_) bot).trans (manage_view h hupdate hremove arguments)
  split
  · exact leaves_pure _
  · split
    · exact (leaves_reloadHandlers hhandlers).returns
    · exact leaves_pure _

end View

/-! ### Whole messages -/

theorem leaves_manageSoundboard
    (h : ∀ bot enabled, view { bot with soundboardEnabled := enabled } = view bot) (arguments : List String) :
    Leaves view (manageSoundboard arguments) := by
  rw [manageSoundboard]
  split
  · exact Leaves.bind (leaves_modify (by intro bot; exact h bot _)) fun _ => (leaves_translation _).returns
  · exact Leaves.bind (leaves_modify (by intro bot; exact h bot _)) fun _ => (leaves_translation _).returns
  · exact leaves_pure _

/-- What a command does.  One for everybody changes no more than every message may change, unless it enters a giveaway. -/
inductive Does (handler : Handler) (message : Message) (arguments : List String) :
    BotM (Option (List String)) → Prop where
  | answers {x : BotM (Option (List String))} (level : handler.level = .viewer) (leaves : ∀ {τ : Type} {view : Bot → τ},
      Reserved view → (handler.isClip → ∀ clip, Leaves view (play clip)) → Leaves view x) : Does handler message arguments x
  | enters (action : handler.action = .enterGiveaway) : Does handler message arguments (enterGiveaway message)
  | commands (level : handler.level = .moderator) : Does handler message arguments (manageCommands arguments)
  | words (level : handler.level = .moderator) : Does handler message arguments (manageDictionary message arguments)
  | giveaway (level : handler.level = .admin) (action : handler.action = .manageGiveaway) :
      Does handler message arguments (manageGiveaway message arguments)
  | soundboard (level : handler.level = .admin) : Does handler message arguments (manageSoundboard arguments)

theorem handle_does (handler : Handler) (message : Message) (arguments : List String) :
    Does handler message arguments (handle handler message arguments) := by
  obtain ⟨name, pattern, varied, action⟩ := handler
  rw [handle]
  cases action with
  | respond response => exact .answers rfl fun _ _ => (leaves_fillResponse _ _).returns
  | fill response parameters =>
    refine .answers rfl fun _ _ => ?_
    dsimp only
    split
    · exact leaves_pure _
    · exact (leaves_fillResponse _ _).returns
  | play clip uploader =>
    refine .answers rfl fun _ hplay => ?_
    dsimp only
    split
    · exact (hplay rfl _).returns
    · exact leaves_pure _
  | execute script => exact .answers rfl fun h _ => leaves_runScript h _ _ _
  | manageCommands => exact .commands rfl
  | manageGiveaway => exact .giveaway rfl rfl
  | enterGiveaway => exact .enters rfl
  | manageDictionary => exact .words rfl
  | manageSoundboard => exact .soundboard rfl

theorem enterGiveaway_run (message : Message) (bot : Bot) : enterGiveaway message bot =
    if message.platform.features.giveaways then
      let entry := bot.giveaway.enter ⟨message.sender, message.platform⟩
      (.ok (some entry.2.texts), { bot with giveaway := entry.1 })
    else (.ok (some []), bot) := by
  rw [enterGiveaway]
  cases message.platform.features.giveaways <;> rfl

theorem leaves_enterGiveaway (h : ∀ bot giveaway, view { bot with giveaway } = view bot) (message : Message) :
    Leaves view (enterGiveaway message) := by
  intro bot
  rw [enterGiveaway_run]
  split
  · exact h bot _
  · rfl

theorem leaves_manageGiveaway (h : ∀ bot giveaway, view { bot with giveaway } = view bot) (message : Message)
    (arguments : List String) : Leaves view (manageGiveaway message arguments) := by
  intro bot
  rw [manageGiveaway]
  split
  · rfl
  · split
    · exact h bot _
    · exact h bot _
    · exact h bot _
    · rfl

def afterCall (bot : Bot) (message : Message) : Bot :=
  (bot.call? message).elim bot fun call => (handle call.1 message call.2 bot).2

theorem afterCall_cases {P : Bot → Prop} (hnone : P bot)
    (hcall : ∀ handler arguments, bot.call? message = some (handler, arguments) → P (handle handler message arguments bot).2)
    : P (bot.afterCall message) := by
  rw [afterCall]
  cases hfound : bot.call? message with
  | none => exact hnone
  | some call => exact hcall call.1 call.2 hfound

theorem covers_of_call? (h : bot.call? message = some (handler, arguments))
    : message.level.covers handler.level := by
  obtain ⟨command, -, hcall⟩ := Option.bind_eq_some_iff.1 h
  obtain ⟨called, hcalled, heq⟩ := Option.map_eq_some_iff.1 hcall
  cases heq
  exact (Option.filter_eq_some_iff.1 hcalled).2

theorem responsesTo_view (h : Reserved view) (message : Message) (bot : Bot) :
    view (responsesTo message bot).2 = view (bot.afterCall message) := by
  rw [responsesTo, afterCall, call?]
  cases Chat.Command.ofMessage? message.text with
  | none => exact leaves_explain h message bot
  | some command =>
    show view ((get >>= _ : BotM _) bot).2 = _
    rw [run_get_bind, Option.bind_some]
    cases calledHandler? bot message command with
    | none => rfl
    | some handler =>
      refine view_bind (fun responses => ?_) bot
      refine (leaves_explain h message).bind fun explanations => ?_
      split <;> simp

theorem andFinally_state (x : BotM α) (last : BotM Unit) (bot : Bot) : (andFinally x last bot).2 = (last (x bot).2).2 := by
  rw [andFinally, run_bind_of_ok (attempt_run x bot)]
  obtain ⟨_, t, hrun, hbind⟩ | ⟨_, t, hrun, hbind⟩ := run_bind last _ (x bot).2
  · rw [hbind, hrun]
    cases (x bot).1 with
    | ok | error => rfl
  · rw [hbind, hrun]

/-- What a response may change apart, the command that a message calls does all that is done before its sender is
greeted. -/
theorem answer_view (h : Reserved view) (incoming : Station.Incoming) (bot : Bot) :
    view ((do Station.answer incoming (← responsesTo incoming.message) : BotM Unit) bot).2 =
      view (bot.afterCall incoming.message) :=
  (view_bind (leaves_answer h incoming) bot).trans (responsesTo_view h incoming.message bot)

theorem process_view (h : Casual view) (incoming : Station.Incoming) (entrance : Option Entrance) (bot : Bot) :
    view (process incoming.message entrance (Station.answer incoming) bot).2 = view (bot.afterCall incoming.message) := by
  rw [process, run_get_bind, andFinally_state]
  refine Eq.trans ((?_ : Leaves view _) _) (answer_view h.toReserved incoming bot)
  split
  · split
    · exact leaves_greet h _
    · exact leaves_pure _
  · exact leaves_pure _

end Bot
end StreamBot
