import StreamBot.Proofs.Bot.Reach
import StreamBot.Proofs.Database.References
import StreamBot.Proofs.Script.Storage

/-! # Managing commands keeps them in order

Commands are in order if their names differ without regard to case, from each other and from those of the commands
that are always there, and if each has its handler (`Orderly`).  Each attempt to change them leaves them as they are
or leaves tables that can be read (`Attempted`), which the bot then does.  Main statement: `manageCommands_orderly`.

There is one exception.  A response whose name is not ASCII although its lower case is cannot be replaced, since the
database does not find it; this is why the tables have to be `Tidy` (`exists_update_out_of_order`).
-/

namespace StreamBot.Bot

open List Trigger Text StoredCommand
open Chat (Handler)
open Trigger (Pattern)

variable {name source : String} {p : Pattern} {P : Database → Prop} {message : List String}
variable {bot now : Bot} {db db' : Database} {argument text : String} {α : Type}

/-! ### Commands in order -/

/-- The names of the commands differ without regard to case, from each other and from those of the commands that are
always there, and each command has its handler. -/
structure Orderly (bot : Bot) : Prop where
  nodup : ((storedCommands bot.database).map (·.key)).Nodup
  unreserved : ∀ c ∈ storedCommands bot.database, ∀ b ∈ Handler.builtins, c.key ≠ lower b.name
  handled : ∃ own, Handled (storedCommands bot.database) own ∧ bot.handlers = own ++ Handler.builtins

/-- What holds of tables whose commands are managed in the chat: parameters belong to commands, and a response whose
name has a lower case in ASCII has a name in ASCII. -/
structure Tidy (db : Database) : Prop where
  owned : ParametersOwned db
  plain : ∀ name ∈ db.staticCommands.map (·.name) ++ db.parameterizedCommands.map (·.name),
    Text.IsAscii (lower name) → Text.IsAscii name

/-- The commands are in order, and the database works. -/
structure Manageable (bot : Bot) : Prop extends Orderly bot where
  tidy : Tidy bot.database
  working : bot.outages = []

/-- The commands are in order, whatever their names are, and the database works. -/
structure Steady (bot : Bot) : Prop extends Orderly bot where
  owned : ParametersOwned bot.database
  working : bot.outages = []

/-- Tables whose commands can be read, none of them with the name of a command that is always there. -/
structure Clean (db : Database) : Prop extends Loadable db where
  owned : ParametersOwned db
  unreserved : ∀ c ∈ storedCommands db, ∀ b ∈ Handler.builtins, c.key ≠ lower b.name

theorem Manageable.steady (h : bot.Manageable) : bot.Steady := ⟨h.toOrderly, h.tidy.owned, h.working⟩

theorem Steady.clean (h : bot.Steady) : Clean bot.database := by
  obtain ⟨own, hown, -⟩ := h.handled
  refine ⟨⟨h.nodup, fun c hc => ?_⟩, h.owned, h.unreserved⟩
  obtain ⟨handler, -, hhandler⟩ := exists_right_of_forall₂ hown hc
  exact ⟨handler, hhandler⟩

theorem Steady.loadHandlers (h : bot.Steady) : loadHandlers bot = (.ok bot.handlers, bot) :=
  (loadHandlers_eq_ok h.working).2 ⟨h.nodup, h.handled⟩

theorem Clean.insert {c : StoredCommand} (h : Clean db) (howned : ParametersOwned db')
    (hadds : Adds (storedCommands db) (storedCommands db') c)
    (hunreserved : ∀ b ∈ Handler.builtins, c.key ≠ lower b.name) (hhandler : ∃ x, c.handler = .ok x) :
    Clean db' := by
  refine ⟨(loadable_insert_iff h.toLoadable hadds).2 hhandler, howned, fun d hd => ?_⟩
  rcases mem_cons.1 (hadds.2.mem_iff.1 hd) with rfl | hd
  · exact hunreserved
  · exact h.unreserved d hd

/-- Taking a command from tables that can be read leaves such tables. -/
theorem Clean.removed (h : Clean db) (hrun : (Database.removeCommandCaseInsensitive name).run db = .ok (true, db')) :
    Clean db' ∧ ∃ gone ∈ storedCommands db, gone.key = lower name ∧
      storedCommands db' = (storedCommands db).filter (·.key != gone.key) := by
  obtain ⟨hfalse, -⟩ | ⟨-, gone, hgone, hname, hfilter⟩ := storedCommands_of_removeCommand h.nodup hrun
  · cases hfalse
  refine ⟨⟨h.toLoadable.filter hfilter, ?_, fun d hd => ?_⟩, gone, hgone, lower_eq_of_sameName hname, hfilter⟩
  · exact (Database.steps_removeCommand name db true db' hrun).parameters.owned h.owned
  · exact h.unreserved d (mem_filter.1 (hfilter ▸ hd)).1

theorem Clean.reload (hworking : bot.outages = []) (h : Clean bot.database) :
    ∃ now, reloadHandlers bot = (.ok (), now) ∧ now.database = bot.database ∧ now.services = bot.services ∧
      now.Steady := by
  obtain ⟨own, hown, hreload⟩ := reloadHandlers_of_loadable hworking h.toLoadable
  exact ⟨_, hreload, rfl, rfl, ⟨⟨h.nodup, h.unreserved, own, hown, rfl⟩, h.owned, hworking⟩⟩

/-! ### Responses -/

def StoredCommand.isResponse (c : StoredCommand) : Bool :=
  match c.action with
  | .ok (.respond _) | .ok (.fill ..) => true
  | _ => false

theorem mem_responseNames : name ∈ responseNames db ↔ ∃ c ∈ storedCommands db, c.isResponse ∧ c.name = name := by
  have hscript (row : Database.StoredScript) : (ofScript row).isResponse = false := by
    unfold ofScript StoredCommand.isResponse
    cases storedScript row <;> rfl
  simp only [responseNames, storedCommands, mem_append, or_and_right, exists_or, mem_map, exists_exists_and_eq_and, hscript,
    Bool.false_eq_true, false_and, and_false, exists_false, or_false]
  simp [ofStatic, ofParameterized, ofClip, StoredCommand.isResponse]

def StoredCommand.ofResponse (name response : String) (parameters : List String) : StoredCommand :=
  if parameters.isEmpty then .ofStatic ⟨name, response⟩
  else .ofParameterized ⟨name, response⟩ ((Database.parameterNames parameters).mergeSort (· ≤ ·))

@[simp]
theorem StoredCommand.name_ofResponse (name response : String) (parameters : List String) :
    (ofResponse name response parameters).name = name := by
  unfold ofResponse
  split <;> rfl

theorem StoredCommand.key_ofResponse (name response : String) (parameters : List String) :
    (ofResponse name response parameters).key = lower name := by
  rw [StoredCommand.key, name_ofResponse]

theorem StoredCommand.exists_handler_ofResponse (h : ofName name = .ok p) (response : String)
    (parameters : List String) : ∃ x, (ofResponse name response parameters).handler = .ok x := by
  have haction : ∃ action, (ofResponse name response parameters).action = .ok action := by
    unfold ofResponse
    split <;> exact ⟨_, rfl⟩
  exact exists_handler.2 ⟨⟨p, by rwa [name_ofResponse]⟩, haction⟩

theorem storeCommand_run (hworking : bot.outages = []) (howned : ParametersOwned bot.database)
    (hfresh : ∀ c ∈ storedCommands bot.database, c.key ≠ lower name) (response : String) (parameters : List String) :
    ∃ db', storeCommand name response parameters bot = (.ok (), { bot with database := db' }) ∧
      (storedCommands db').Perm (.ofResponse name response parameters :: storedCommands bot.database) ∧
      ParametersOwned db' := by
  have hin (operation : String) : bot.Working operation := working_of_outages hworking operation
  cases parameters with
  | nil =>
    have hnew (other : Database.StaticCommand) (hother : other ∈ bot.database.staticCommands) :
        other.name ≠ name := fun h => hfresh _ (ofStatic_mem hother) (congrArg lower h)
    refine ⟨_, ?_, storedCommands_addStatic _, howned⟩
    rw [storeCommand, run_bind_of_ok (perform_of_ok (hin _) (addStaticCommand_run ⟨name, response⟩ hnew))]
    rfl
  | cons first rest =>
    have hnew (other : Database.ParameterizedCommand) (hother : other ∈ bot.database.parameterizedCommands) :
        other.name ≠ name := fun h => hfresh _ (ofParameterized_mem hother) (congrArg lower h)
    have hrun := addParameterizedCommand_run ⟨name, response⟩ hnew (first :: rest)
    refine ⟨_, ?_, storedCommands_withParameterized howned hnew _,
      (Database.steps_addParameterizedCommand _ _ _ _ _ _ hrun).parameters.owned howned⟩
    rw [storeCommand, run_bind_of_ok (perform_of_ok (hin _) hrun)]
    · rfl
    · nofun

/-! ### Names that overlap -/

theorem ne_of_not_overlap {other : String} {q : Pattern} (hname : ofName name = .ok p)
    (hother : ofName other = .ok q) (h : overlap p q = false) : lower other ≠ lower name := by
  intro heq
  have hsame : ofName other = ofName name := by rw [ofName, heq, ofName]
  rw [hother, hname] at hsame
  cases hsame
  rw [overlap_of_ofName hname] at h
  cases h

theorem ofName_builtin : ∀ b ∈ Handler.builtins, ofName b.name = .ok b.pattern := by
  simp only [Handler.builtins, forall_mem_cons]
  exact ⟨rfl, rfl, rfl, rfl, rfl, fun _ h => absurd h not_mem_nil⟩

theorem Orderly.fresh (h : bot.Orderly) (hname : ofName name = .ok p)
    (hoverlap : bot.handlers.any (fun other => overlap p other.pattern) = false) :
    (∀ c ∈ storedCommands bot.database, c.key ≠ lower name) ∧ ∀ b ∈ Handler.builtins, lower name ≠ lower b.name := by
  obtain ⟨own, hown, hhandlers⟩ := h.handled
  have hno (other : Handler) (hother : other ∈ own ++ Handler.builtins) : overlap p other.pattern = false := by
    rw [hhandlers, any_eq_false] at hoverlap
    simpa using hoverlap other hother
  constructor
  · intro c hc
    obtain ⟨handler, hmem, hhandler⟩ := exists_right_of_forall₂ hown hc
    obtain ⟨q, action, hq, -, rfl⟩ := handler_eq_ok.1 hhandler
    have hfree := hno _ (mem_append_left _ hmem)
    exact ne_of_not_overlap hname hq hfree
  · intro b hb
    have hfree := hno b (mem_append_right _ hb)
    exact (ne_of_not_overlap hname (ofName_builtin b hb) hfree).symm

/-! ### What an attempt does -/

/-- An attempt to change the commands: it fails, or it is refused, and nothing has changed but what the services
were told; or it succeeds, and the tables have changed in some way. -/
inductive Attempted (bot : Bot) (P : Database → Prop) : Except Fault Outcome × Bot → Prop where
  | failed (fault : Fault) {after : Bot} (same : after = { bot with journal := after.journal }) :
      Attempted bot P (.error fault, after)
  | refused (response : String) {after : Bot} (same : after = { bot with journal := after.journal }) :
      Attempted bot P (.ok ⟨false, response⟩, after)
  | changed (response : String) {after : Bot}
      (same : after = { bot with journal := after.journal, database := after.database }) (h : P after.database) :
      Attempted bot P (.ok ⟨true, response⟩, after)

theorem Attempted.bind_of_error {x : BotM α} {fault : Fault} (h : x bot = (.error fault, bot))
    (k : α → BotM Outcome) : Attempted bot P ((x >>= k) bot) := by
  rw [run_bind_of_error h]
  exact .failed fault rfl

theorem Attempted.imp {Q : Database → Prop} {r : Except Fault Outcome × Bot} (h : Attempted bot P r)
    (himp : ∀ db, P db → Q db) : Attempted bot Q r := by
  cases h with
  | failed fault same => exact .failed fault same
  | refused response same => exact .refused response same
  | changed response same h => exact .changed response same (himp _ h)

/-- A command is in the place of the one with the same name without regard to case. -/
def Replaces (old new : List StoredCommand) (c : StoredCommand) : Prop :=
  (∃ d ∈ old, d.key = c.key) ∧ new.Perm (c :: old.filter (·.key != c.key))

theorem attempted_store (hworking : bot.outages = []) (hclean : Clean db) (hname : ofName name = .ok p)
    (hfresh : ∀ c ∈ storedCommands db, c.key ≠ lower name)
    (hunreserved : ∀ b ∈ Handler.builtins, lower name ≠ lower b.name) (response : String)
    (parameters : List String) (key : Chat.TranslationKey) :
    Attempted bot (fun db' => Clean db' ∧ Adds (storedCommands db) (storedCommands db') (.ofResponse name response parameters))
      ((storeCommand name response parameters >>= fun _ => done key) { bot with database := db }) := by
  have hkey := StoredCommand.key_ofResponse name response parameters
  have hworking' : ({ bot with database := db }).outages = [] := hworking
  obtain ⟨db', hstore, hperm, howned⟩ := storeCommand_run hworking' hclean.owned hfresh response parameters
  have hadds : Adds (storedCommands db) (storedCommands db') (.ofResponse name response parameters) := ⟨hkey ▸ hfresh, hperm⟩
  rw [run_bind_of_ok hstore]
  refine .changed _ rfl ⟨?_, hadds⟩
  exact hclean.insert howned hadds (hkey ▸ hunreserved) (exists_handler_ofResponse hname response parameters)

/-- The response that is replaced is found by its name, and no other command is. -/
theorem attempted_update (h : bot.Steady) {existing : String} (hname : ofName name = .ok p)
    (hexisting : existing ∈ responseNames bot.database) (hfound : Database.sameName existing existing)
    (hsame : lower existing = lower name) (response : String) (parameters : List String) (key : Chat.TranslationKey) :
    Attempted bot (fun db => Clean db ∧ Replaces (storedCommands bot.database) (storedCommands db)
        (.ofResponse name response parameters))
      ((perform (Database.removeCommandCaseInsensitive existing) >>= fun _ =>
        storeCommand name response parameters >>= fun _ => done key) bot) := by
  -- The old response goes first, and with it the only command that has the key of the new one.
  obtain ⟨c, hc, -, rfl⟩ := mem_responseNames.1 hexisting
  obtain ⟨between, hrun⟩ := exists_removeCommand h.nodup hc hfound
  obtain ⟨hclean, gone, hgone, hkey, hfilter⟩ := h.clean.removed hrun
  rw [hsame] at hkey
  rw [hkey] at hfilter
  have hfresh (c : StoredCommand) (hc : c ∈ storedCommands between) : c.key ≠ lower name := by
    rw [hfilter] at hc
    exact bne_iff_ne.1 (mem_filter.1 hc).2
  rw [run_bind_of_ok (perform_of_ok (working_of_outages h.working _) hrun)]
  refine (attempted_store h.working hclean hname hfresh (hkey ▸ h.unreserved gone hgone) response parameters
    key).imp fun db ⟨hclean, hadds⟩ => ⟨hclean, ⟨gone, hgone, ?_⟩, ?_⟩
  · rw [hkey, key_ofResponse]
  · rw [key_ofResponse, ← hfilter]
    exact hadds.2

theorem attempted_remove (h : bot.Steady) (name : String) (key key' : Chat.TranslationKey) :
    Attempted bot (fun db => Clean db ∧ Removes (storedCommands bot.database) (storedCommands db))
      ((perform (Database.removeCommandCaseInsensitive name) >>= fun gone =>
        if gone then done key else refused key') bot) := by
  have hworking := working_of_outages h.working "remove_command_case_insensitive"
  cases hrun : (Database.removeCommandCaseInsensitive name).run bot.database with
  | error fault => exact .bind_of_error (perform_of_error hworking hrun) _
  | ok r =>
    obtain ⟨found, db'⟩ := r
    rw [run_bind_of_ok (perform_of_ok hworking hrun)]
    obtain ⟨rfl, rfl⟩ | ⟨rfl, -⟩ := storedCommands_of_removeCommand h.nodup hrun
    · exact .refused _ rfl
    · obtain ⟨hclean, gone, hgone, -, hfilter⟩ := h.clean.removed hrun
      exact .changed _ rfl ⟨hclean, gone, hgone, hfilter⟩

theorem TakesFrom.text_eq {before : Bot} (h : bot.TakesFrom name source before text) :
    text = source ∨ Dict.get? bot.services.pages source = some (.text text) := by
  cases h with
  | itself => exact .inl rfl
  | page _ found => exact .inr found

theorem ofScript_of_finite {script : Script} (hread : Script.ofSource name text = .ok script)
    (hfinite : script.Finite) :
    ofScript ⟨name, source, script.toJson.render⟩ = ⟨name, .ok (.execute script)⟩ := by
  rw [ofScript, storedScript, hfinite.read?_render (Script.acceptedScript_of_ofSource hread).2.notEmpty]
  rfl

theorem attempted_script (h : bot.Steady) {before : Bot} {prepared : PreparedScript} {script : Script}
    {values : Dict Script.StoreKey Script.Value} (hname : ofName name = .ok p)
    (hfree : bot.handlers.any (fun other => overlap p other.pattern) = false)
    (htakes : bot.TakesFrom name source before text) (hreadies : before.Readies name text prepared script values)
    (hfinite : script.Finite) (key : Chat.TranslationKey) :
    Attempted bot (fun db => Clean db ∧ ∃ text script, Script.ofSource name text = .ok script ∧
        Adds (storedCommands bot.database) (storedCommands db) ⟨name, .ok (.execute script)⟩)
      ((perform (Database.addScript name source prepared.json prepared.stores) >>= fun _ => done key) before) := by
  have hbefore := htakes.eq
  have hdb : before.database = bot.database := by rw [hbefore]
  have hworking : before.Working "add_script" := working_of_outages (by rw [hbefore]; exact h.working) _
  cases hadd : (Database.addScript name source prepared.json prepared.stores).run before.database with
  | error fault =>
    rw [run_bind_of_error (perform_of_error hworking hadd)]
    exact .failed _ hbefore
  | ok r =>
    obtain ⟨row, db'⟩ := r
    obtain ⟨-, rfl, rfl⟩ := Database.ok_of_addScript hadd
    rw [run_bind_of_ok (perform_of_ok hworking hadd)]
    obtain ⟨hfresh, hunreserved⟩ := h.fresh hname hfree
    -- What is stored is a text.  The script that is read from it again is the same, its numbers being finite.
    have hperm : (storedCommands (Database.withScript ⟨name, source, prepared.json⟩ prepared.stores bot.database)).Perm _ :=
      storedCommands_withScript _ _
    rw [hreadies.json, ofScript_of_finite hreadies.read hfinite] at hperm
    have hadds : Adds (storedCommands bot.database) (storedCommands (Database.withScript
        ⟨name, source, script.toJson.render⟩ prepared.stores bot.database)) ⟨name, .ok (.execute script)⟩ := ⟨hfresh, hperm⟩
    refine .changed _ (by rw [hbefore]) ?_
    rw [hdb, hreadies.json]
    refine ⟨?_, text, script, hreadies.read, hadds⟩
    exact h.clean.insert h.owned hadds hunreserved ⟨_, handler_eq_ok.2 ⟨p, _, hname, rfl, rfl⟩⟩

/-! ### Messages -/

/-- A message that names its command in ASCII, and whose script, if it gives one, has finite numbers only. -/
structure Acceptable (bot : Bot) (message : List String) : Prop where
  ascii : ∀ name ∈ message[1]?, IsAscii name
  finite : ∀ word name source rest, message = word :: name :: source :: rest → lower word = "add-script" →
    ∀ text, text = source ∨ Dict.get? bot.services.pages source = some (.text text) →
      ∀ script, Script.ofSource (nameArgument name) text = .ok script → script.Finite

inductive Effect (old new : List StoredCommand) : List String → Prop where
  | add {word name response : String} {parameters : List String} (said : lower word = "add")
      (adds : Adds old new (.ofResponse (nameArgument name) response parameters)) :
      Effect old new (word :: name :: response :: parameters)
  | update {word name response : String} {parameters : List String} (said : lower word = "update")
      (replaces : Replaces old new (.ofResponse (nameArgument name) response parameters)) :
      Effect old new (word :: name :: response :: parameters)
  | addScript {word name source text : String} {rest : List String} {script : Script}
      (said : lower word = "add-script") (read : Script.ofSource (nameArgument name) text = .ok script)
      (adds : Adds old new ⟨nameArgument name, .ok (.execute script)⟩) :
      Effect old new (word :: name :: source :: rest)
  | remove {word name : String} {rest : List String} (said : lower word = "remove") (removes : Removes old new) :
      Effect old new (word :: name :: rest)

/-- If a response is to be replaced, then the database finds it by its own name, and a script that is given has finite numbers
only. -/
structure Answerable (bot : Bot) (message : List String) : Prop where
  found : ∀ name ∈ message[1]?, ∀ existing ∈ responseNames bot.database, lower existing = lower (nameArgument name) →
    Database.sameName existing existing
  finite : ∀ word name source rest, message = word :: name :: source :: rest → lower word = "add-script" →
    ∀ text, text = source ∨ Dict.get? bot.services.pages source = some (.text text) →
      ∀ script, Script.ofSource (nameArgument name) text = .ok script → script.Finite

theorem Acceptable.answerable (hmessage : bot.Acceptable message) (h : bot.Manageable) : bot.Answerable message where
  found name hname existing hexisting hsame := by
    have hascii : IsAscii (nameArgument name) := (hmessage.ascii name hname).dropLeading _
    have hlower : IsAscii (lower existing) := by
      rw [hsame, hascii.lower]
      exact isAscii_lowerAscii.2 hascii
    exact (h.tidy.plain existing hexisting hlower).sameName
  finite := hmessage.finite

theorem Course.attempted {result : Except Fault Outcome × Bot} (h : bot.Steady) (hmessage : bot.Answerable message)
    (hcourse : Course bot message result) : Attempted bot
      (fun db => Clean db ∧ Effect (storedCommands bot.database) (storedCommands db) message) result := by
  cases hcourse with
  | failed fault same => exact .failed fault same
  | refused text same => exact .refused text same
  | stored said named free key =>
    obtain ⟨hfresh, hunreserved⟩ := h.fresh named free
    exact (attempted_store h.working h.clean named hfresh hunreserved _ _ key).imp fun db hdb => ⟨hdb.1, .add said hdb.2⟩
  | replaced said named found same key =>
    exact (attempted_update h named found (hmessage.found _ rfl _ found same) same _ _ key).imp
      fun db hdb => ⟨hdb.1, .update said hdb.2⟩
  | scripted said named free takes readies key =>
    have hfinite := hmessage.finite _ _ _ _ rfl said _ takes.text_eq _ readies.read
    exact (attempted_script h named free takes readies hfinite key).imp
      fun db ⟨hclean, text, script, hread, hadds⟩ => ⟨hclean, .addScript said hread hadds⟩
  | removed said _ _ key key' =>
    exact (attempted_remove h _ key key').imp fun db hdb => ⟨hdb.1, .remove said hdb.2⟩

/-- What comes of a message: the commands are in order again; they change only if the message succeeds, and then as
it says. -/
structure Settles (bot : Bot) (message : List String) (answer : Except Fault (Option (List String))) (now : Bot) :
    Prop where
  steady : now.Steady
  services : now.services = bot.services
  unchanged : (∀ response, (manage message bot).1 ≠ .ok (some ⟨true, response⟩)) →
    now.database = bot.database ∧ now.handlers = bot.handlers
  changed : ∀ response, (manage message bot).1 = .ok (some ⟨true, response⟩) →
    answer = .ok (some [response]) ∧ Effect (storedCommands bot.database) (storedCommands now.database) message

theorem settles_of_same {answer : Except Fault (Option (List String))} (h : bot.Steady)
    (same : now = { bot with journal := now.journal })
    (hno : ∀ response, (manage message bot).1 ≠ .ok (some ⟨true, response⟩)) : Settles bot message answer now := by
  rw [same]
  exact ⟨⟨⟨h.nodup, h.unreserved, h.handled⟩, h.owned, h.working⟩, rfl, fun _ => ⟨rfl, rfl⟩,
    fun response hyes => absurd hyes (hno response)⟩

theorem manageCommands_settles (h : bot.Steady) (hmessage : bot.Answerable message) :
    Settles bot message (manageCommands message bot).1 (manageCommands message bot).2 := by
  unfold manageCommands
  obtain hnone | ⟨attempt, hattempt, hcourse⟩ := manage_course message bot
  · have hrun : manage message bot = (.ok none, bot) := by rw [hnone]; rfl
    rw [run_bind_of_ok hrun]
    exact settles_of_same h rfl fun response => by rw [hrun]; nofun
  · have hmanage : manage message bot = ((attempt bot).1.map some, (attempt bot).2) := by
      rw [hattempt, BotM.map_run]
    have hattempted := hcourse.attempted h hmessage
    generalize attempt bot = result at hmanage hattempted
    cases hattempted with
    | failed fault same =>
      rw [run_bind_of_error hmanage]
      exact settles_of_same h same fun response => by rw [hmanage]; nofun
    | refused response same =>
      rw [run_bind_of_ok hmanage]
      exact settles_of_same h same fun response => by rw [hmanage]; nofun
    | @changed response after same hP =>
      rw [run_bind_of_ok hmanage]
      have hworking : after.outages = [] := by rw [same]; exact h.working
      obtain ⟨now, hreload, hdatabase, hservices, hsteady⟩ := Clean.reload hworking hP.1
      dsimp only
      rw [if_pos rfl, run_bind_of_ok hreload]
      rw [← hdatabase] at hP
      refine ⟨hsteady, hservices.trans (by rw [same]), fun hno => ?_, fun response' hyes => ?_⟩
      · exact absurd (congrArg Prod.fst hmanage) (hno response)
      · rw [hmanage] at hyes
        cases hyes
        exact ⟨rfl, hP.2⟩

/-- A message that names its command in ASCII leaves tidy tables tidy: all that it may add is that command. -/
theorem Tidy.of_effect (h : Tidy db) (howned : ParametersOwned db') (hascii : ∀ name ∈ message[1]?, IsAscii name)
    (heffect : Effect (storedCommands db) (storedCommands db') message) : Tidy db' := by
  refine ⟨howned, fun name hname hlower => ?_⟩
  obtain ⟨c, hc, hresponse, rfl⟩ := mem_responseNames.1 hname
  have hold (hc : c ∈ storedCommands db) : IsAscii c.name := h.plain _ (mem_responseNames.2 ⟨c, hc, hresponse, rfl⟩) hlower
  cases heffect with
  | add _ adds =>
    rcases mem_cons.1 (adds.2.mem_iff.1 hc) with rfl | hc
    · rw [name_ofResponse]
      exact (hascii _ rfl).dropLeading _
    · exact hold hc
  | update _ replaces =>
    rcases mem_cons.1 (replaces.2.mem_iff.1 hc) with rfl | hc
    · rw [name_ofResponse]
      exact (hascii _ rfl).dropLeading _
    · exact hold (mem_filter.1 hc).1
  | addScript _ _ adds =>
    rcases mem_cons.1 (adds.2.mem_iff.1 hc) with rfl | hc
    · cases hresponse
    · exact hold hc
  | remove _ removes =>
    obtain ⟨gone, -, heq⟩ := removes
    exact hold (mem_filter.1 (heq ▸ hc)).1

theorem manageCommands_manageable (h : bot.Manageable) (hmessage : bot.Acceptable message) :
    Settles bot message (manageCommands message bot).1 (manageCommands message bot).2 ∧
      (manageCommands message bot).2.Manageable := by
  have hsettles := manageCommands_settles h.steady (hmessage.answerable h)
  refine ⟨hsettles, hsettles.steady.toOrderly, ?_, hsettles.steady.working⟩
  by_cases hsuccess : ∃ response, (manage message bot).1 = .ok (some ⟨true, response⟩)
  · obtain ⟨response, hresponse⟩ := hsuccess
    exact h.tidy.of_effect hsettles.steady.owned hmessage.ascii (hsettles.changed response hresponse).2
  · rw [(hsettles.unchanged fun response hresponse => hsuccess ⟨response, hresponse⟩).1]
    exact h.tidy

def managed (bot : Bot) (messages : List (List String)) : Bot :=
  messages.foldl (fun bot message => (manageCommands message bot).2) bot

theorem Acceptable.of_services (h : bot.Acceptable message) (hservices : now.services = bot.services)
    : now.Acceptable message :=
  ⟨h.ascii, hservices ▸ h.finite⟩

theorem Manageable.managed (h : bot.Manageable) {messages : List (List String)}
    (hmessages : ∀ message ∈ messages, bot.Acceptable message) :
    (bot.managed messages).Manageable ∧ (bot.managed messages).services = bot.services := by
  induction messages generalizing bot with
  | nil => exact ⟨h, rfl⟩
  | cons message rest ih =>
    obtain ⟨hmessage, hrest⟩ := forall_mem_cons.1 hmessages
    obtain ⟨hstep, hmanageable⟩ := manageCommands_manageable h hmessage
    obtain ⟨hmanaged, hservices⟩ := ih hmanageable fun other hother =>
      (hrest other hother).of_services hstep.services
    exact ⟨hmanaged, hservices.trans hstep.services⟩

def greeting : Bot :=
  { blank with
    database := { staticCommands := [⟨"Hi", "hello"⟩] }
    handlers := ⟨"Hi", .literal "hi", (Pattern.literal "hi").isVaried, .respond "hello"⟩ :: Handler.builtins }

theorem manageable_greeting : greeting.Manageable where
  nodup := nodup_singleton _
  unreserved c hc := by
    obtain rfl : c = .ofStatic ⟨"Hi", "hello"⟩ := by simpa [greeting, storedCommands] using hc
    decide +kernel
  handled := ⟨[_], .cons (handler_eq_ok.2 ⟨_, _, rfl, rfl, rfl⟩) .nil, rfl⟩
  tidy := ⟨fun p hp => absurd hp not_mem_nil, by decide +kernel⟩
  working := rfl

theorem acceptable_of_word {word : String} {rest : List String} (hname : IsAscii name)
    (hword : lower word ≠ "add-script") : bot.Acceptable (word :: name :: rest) where
  ascii other hother := by
    cases hother
    exact hname
  finite word' _ _ _ heq hscript := by
    cases heq
    exact absurd hscript hword

/-- A bot with a command whose name is the sign for kelvin, which is the letter k in lower case. -/
def kelvin : Bot :=
  { blank with
    database := { staticCommands := [⟨"\u212A", "old"⟩] }
    handlers := ⟨"\u212A", .literal "k", (Pattern.literal "k").isVaried, .respond "old"⟩ :: Handler.builtins }

theorem orderly_kelvin : kelvin.Orderly where
  nodup := nodup_singleton _
  unreserved c hc := by
    obtain rfl : c = .ofStatic ⟨"\u212A", "old"⟩ := by simpa [kelvin, storedCommands] using hc
    decide +kernel
  handled := ⟨[_], .cons (handler_eq_ok.2 ⟨_, _, rfl, rfl, rfl⟩) .nil, rfl⟩

/-- The command is not found by its own name, so that there are two commands afterwards. -/
def kelvinTwice : Database := { staticCommands := [⟨"\u212A", "old"⟩, ⟨"k", "new"⟩] }

theorem manage_kelvin :
    manage ["update", "k", "new"] kelvin = (.ok (some ⟨true, ""⟩), { kelvin with database := kelvinTwice }) := by
  -- The name is put in lower case before it is looked for, and the one in the table only as far as it is ASCII.
  have hupdate : addOrUpdate true "k" "new" [] kelvin = (.ok ⟨true, ""⟩, { kelvin with database := kelvinTwice }) := rfl
  show (some <$> addOrUpdate true "k" "new" []) kelvin = _
  rw [BotM.map_run, hupdate]
  rfl

theorem handlers_kelvin : (manageCommands ["update", "k", "new"] kelvin).2.handlers = [] := by
  have hreload : ∃ fault, reloadHandlers { kelvin with database := kelvinTwice } =
      (.error fault, { kelvin with database := kelvinTwice, handlers := [] }) := by
    refine reloadHandlers_of_not_loadable rfl fun h => ?_
    have hnodup := h.nodup
    revert hnodup
    decide +kernel
  obtain ⟨fault, hreload⟩ := hreload
  rw [manageCommands, run_bind_of_ok manage_kelvin]
  dsimp only
  rw [if_pos rfl, run_bind_of_error hreload]

end StreamBot.Bot
