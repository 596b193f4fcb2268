import StreamBot.Proofs.Bot.CommandTables
import StreamBot.Proofs.Web.Keeping

/-! # The soundboard on the site

The broadcaster changes the soundboard on the site: clips are uploaded or approved, renamed, made louder, and deleted
(`Change`).  After a change the bot reads its commands again, and has none while it does.  Main statement: `answer_settled`.

The site does not check all that reading does.  A new name need not be a pattern, and a clip can get the name of a
command that is not on the soundboard; the bot is then left without commands (`exists_commands_lost`).
-/

namespace StreamBot

open List Database Text StreamBot.Bot

variable {name : String} {u : Unit} {r : Request} {uploader : Uploader} {route : Route}
variable {run : Except Failure α × Site} {site' : Site}

theorem Database.removePending_run {db : Database} {id : Int} {row : PendingClip} (hrow : row ∈ db.pendingClips)
    (hid : row.id = id) : (removePendingSoundboardClip id).run db =
      .ok ((), { db with pendingClips := db.pendingClips.filter (·.id != id) }) := by
  have hsome : (db.pendingClips.find? (·.id == id)).isSome := find?_isSome.2 ⟨row, hrow, beq_iff_eq.2 hid⟩
  obtain ⟨found, hfound⟩ := Option.isSome_iff_exists.1 hsome
  simp [removePendingSoundboardClip, Operation.run, requireFound, hfound]
  rfl

namespace Web

open StreamBot.Bot (StoredCommand storedCommands commandView Adds Loadable)

/-! ### Changes -/

inductive Change where
  | add (name : String)
  | rename (former name : String)
  | adjust (name : String) (volume : Float)
  | remove (name : String)

namespace Change

/-- What a change does to the commands in the tables.  A clip is removed by the name that it has there, and the
database looks for that name among all commands. -/
def Made (old new : List StoredCommand) : Change → Prop
  | add name => ∃ row : SoundboardCommand, row.name = name ∧ Adds old new (.ofClip row)
  | rename former name => (∃ c ∈ old, c.name = former) ∧ new = old.map (.renamed former name)
  | adjust name volume =>
    ∃ c ∈ old, sameName c.name name ∧ new = old.map (.adjusted c.name volume)
  | remove name => ∃ c ∈ old, c.key = lower name ∧
      ∃ gone ∈ old, sameName gone.name c.name ∧ new = old.filter (·.key != gone.key)

/-- After the change the commands cannot be read: the new name is no pattern, or another command has it. -/
def Spoils (old : List StoredCommand) : Change → Prop
  | add name => ∀ p, Trigger.ofName name ≠ .ok p
  | rename former name =>
    (∀ p, Trigger.ofName name ≠ .ok p) ∨ ∃ c ∈ old, c.name ≠ former ∧ c.key = lower name
  | adjust _ _ | remove _ => False

theorem loadable_iff {db db' : Database} {change : Change} (h : Loadable db)
    (hmade : change.Made (storedCommands db) (storedCommands db')) :
    Loadable db' ↔ ¬ change.Spoils (storedCommands db) := by
  cases change with
  | add name =>
    obtain ⟨row, rfl, hadds⟩ := hmade
    rw [loadable_insert_iff h hadds, StoredCommand.exists_handler]
    simp [Spoils, StoredCommand.ofClip]
  | rename former name =>
    obtain ⟨hformer, hrenamed⟩ := hmade
    rw [loadable_renamed_iff h hformer hrenamed]
    simp [Spoils]
  | adjust name volume =>
    obtain ⟨c, -, -, hadjusted⟩ := hmade
    exact iff_of_true (h.adjusted hadjusted) not_false
  | remove name =>
    obtain ⟨-, -, -, gone, -, -, hremoved⟩ := hmade
    exact iff_of_true (h.filter hremoved) not_false

end Change

inductive Asked (r : Request) : Route → Change → Prop where
  | upload {entered : String} (given : Dict.get? r.form "command_name" = some entered) :
      Asked r .uploadClip (.add (dropLeading '!' (strip entered)))
  | approve {entered id : String} (given : Dict.get? r.form "command_name" = some entered) :
      Asked r (.approveClip id) (.add (dropLeading '!' (strip entered)))
  | rename {entered former : String} (given : Dict.get? r.form "command_name" = some entered) :
      Asked r (.renameClip former) (.rename former (replace (lower (strip entered)) "!" ""))
  | adjust {name : String} {volume : Float} (given : (r.body.bind (·.get? "volume")).bind numberIn? = some volume) :
      Asked r (.changeVolume name) (.adjust name volume)
  | remove {name : String} : Asked r (.deleteClip name) (.remove name)

/-! ### What comes of a request -/

variable {α β : Type} {before : Bot} {asked : Change → Prop} {site : Site} {k : α → SiteM β} {x : SiteM α}
variable {filename entered : String} {visitor : Visitor}

/-- What comes of a request to change the soundboard.  The commands stay as they are; or they change as it was asked,
and memory is in step with the tables again; or they change and cannot be read any more, and then none are left in
memory. -/
inductive Settled (before : Bot) (asked : Change → Prop) (run : Except Failure α × Site) : Prop where
  | kept (same : run.2.bot.commandView = before.commandView) (inStep : run.2.bot.InStep)
  | made (change : Change) (isAsked : asked change)
      (isMade : change.Made (storedCommands before.database) (storedCommands run.2.bot.database))
      (fine : ¬ change.Spoils (storedCommands before.database)) (inStep : run.2.bot.InStep)
  | spoiled (change : Change) (isAsked : asked change)
      (isMade : change.Made (storedCommands before.database) (storedCommands run.2.bot.database))
      (spoils : change.Spoils (storedCommands before.database)) (empty : run.2.bot.handlers = [])
      (unreadable : ∀ handlers, loadHandlers run.2.bot ≠ (.ok handlers, run.2.bot))
      (fault : Bot.Fault) (failed : run.1 = .error (.fault fault))

theorem settled_of_view (h : before.InStep)
    (hview : run.2.bot.commandView = before.commandView) : Settled before asked run :=
  .kept hview (h.of_view hview)

theorem Settled.follow {run' : Except Failure β × Site} (h : Settled before asked run)
    (hview : run'.2.bot.commandView = run.2.bot.commandView)
    (hfault : ∀ fault, run.1 = .error (.fault fault) → run' = (.error (.fault fault), run.2)) :
    Settled before asked run' := by
  cases h with
  | kept same inStep => exact .kept (hview.trans same) (inStep.of_view hview)
  | made change isAsked isMade fine inStep =>
    have hstored : storedCommands run'.2.bot.database = storedCommands run.2.bot.database := congrArg (·.2.2) hview
    exact .made change isAsked (by rw [hstored]; exact isMade) fine (inStep.of_view hview)
  | spoiled change isAsked isMade spoils empty unreadable fault failed =>
    rw [hfault fault failed]
    exact .spoiled change isAsked isMade spoils empty unreadable fault rfl

theorem Settled.bind (hx : Settled before asked (x site))
    (hk : ∀ a, SiteM.Leaves commandView (k a)) : Settled before asked ((x >>= k) site) := by
  obtain ⟨a, site', hrun, hbind⟩ | ⟨failure, site', hrun, hbind⟩ := run_bind x k site
  · rw [hrun] at hx
    rw [hbind]
    exact hx.follow (hk a site') nofun
  · rw [hrun] at hx
    rw [hbind]
    refine hx.follow rfl fun fault hfailed => ?_
    cases hfailed
    rfl

theorem settled_tryCatch {handle : Failure → SiteM α} (hx : Settled before asked (x site))
    (hhandle : ∀ failure, SiteM.Leaves commandView (handle failure))
    (hfault : ∀ fault, handle (.fault fault) = throw (.fault fault)) :
    Settled before asked ((tryCatch x handle : SiteM α) site) := by
  obtain ⟨a, site', hrun, hcatch⟩ | ⟨failure, site', hrun, hcatch⟩ := run_tryCatch x handle site
  · rw [hrun] at hx
    rw [hcatch]
    exact hx.follow rfl nofun
  · rw [hrun] at hx
    rw [hcatch]
    refine hx.follow (hhandle failure site') fun fault hfailed => ?_
    cases hfailed
    rw [hfault]
    rfl

theorem settled_bind (h : before.InStep)
    (hview : site.bot.commandView = before.commandView) (hx : SiteM.Leaves commandView x)
    (hk : ∀ a site', site'.bot.commandView = before.commandView → Settled before asked (k a site')) :
    Settled before asked ((x >>= k) site) := by
  have hfirst : (x site).2.bot.commandView = site.bot.commandView := hx site
  obtain ⟨a, site', hrun, hbind⟩ | ⟨failure, site', hrun, hbind⟩ := run_bind x k site <;>
    rw [hrun] at hfirst <;> rw [hbind]
  · exact hk a site' (hfirst.trans hview)
  · exact settled_of_view h (hfirst.trans hview)

theorem settled_step (h : site.bot.InStep)
    (herror : ∀ failure site', x site = (.error failure, site') → site'.bot = site.bot)
    (hok : ∀ a site', x site = (.ok a, site') → Settled site.bot asked (k a site')) :
    Settled site.bot asked ((x >>= k) site) := by
  obtain ⟨a, site', hrun, hbind⟩ | ⟨failure, site', hrun, hbind⟩ := run_bind x k site
  · rw [hbind]
    exact hok a site' hrun
  · rw [hbind]
    exact settled_of_view h (congrArg commandView (herror failure site' hrun))

theorem settled_read (h : site.bot.InStep) (hx : SiteM.Leaves id x)
    (hk : ∀ a site', x site = (.ok a, site') → site'.bot = site.bot → site'.bot.InStep →
      Settled site'.bot asked (k a site')) : Settled site.bot asked ((x >>= k) site) := by
  have hsame (result : Except Failure α) (site' : Site) (hrun : x site = (result, site')) : site'.bot = site.bot := by
    have hbot : (x site).2.bot = site.bot := hx site
    rwa [hrun] at hbot
  refine settled_step h (fun failure => hsame (.error failure)) fun a site' hrun => ?_
  have hbot := hsame (.ok a) site' hrun
  rw [← hbot] at h ⊢
  exact hk a site' hrun hbot h

theorem settled_reload (h : before.InStep) {change : Change} (houtages : site.bot.outages = before.outages)
    (hasked : asked change) (hmade : change.Made (storedCommands before.database) (storedCommands site.bot.database)) :
    Settled before asked (onBot reloadHandlers site) := by
  have hiff := Change.loadable_iff h.loadable hmade
  have hworking : site.bot.outages = [] := houtages.trans h.working
  by_cases hspoils : change.Spoils (storedCommands before.database)
  · have hnot : ¬ Loadable site.bot.database := fun hloadable => hiff.1 hloadable hspoils
    obtain ⟨fault, hreload⟩ := reloadHandlers_of_not_loadable hworking hnot
    have hunread (handlers : List Chat.Handler) : loadHandlers site.bot.cleared ≠ (.ok handlers, site.bot.cleared) := by
      intro hload
      have hloadable := loadable_of_loadHandlers hload
      exact hnot hloadable
    -- Reading starts with no commands, and so it leaves none when it fails.
    rw [onBot_of_error hreload]
    exact .spoiled change hasked hmade hspoils rfl hunread fault rfl
  · obtain ⟨own, hown, hreload⟩ := Bot.reloadHandlers_of_loadable hworking (hiff.2 hspoils)
    rw [onBot_of_ok hreload]
    exact .made change hasked hmade hspoils (inStep_of_handled hworking (hiff.2 hspoils) ⟨own, hown, rfl⟩)

/-! ### The routes -/

section

variable {τ : Type} {view : Bot → τ}

theorem leaves_requireName (entered : String) : SiteM.Leaves view (requireName entered) := by
  unfold requireName
  dsimp only
  split
  · exact leaves_refuse _ _
  · exact leaves_pure _

theorem leaves_requireNewName (name : String) : SiteM.Leaves view (requireNewName name) := by
  refine leaves_get.returns.bind fun names => ?_
  split
  · exact leaves_refuse _ _
  · exact leaves_pure _

theorem leaves_audioKind (upload : Upload) : SiteM.Leaves view (audioKind upload) := by
  unfold audioKind
  split
  · exact leaves_refuse _ _
  · split
    · exact leaves_pure _
    · exact leaves_refuse _ _

theorem leaves_requirePending (id : Int) : SiteM.Leaves view (requirePending id) := by
  refine (leaves_read fun _ => rfl).bind fun rows => ?_
  split
  · exact leaves_pure _
  · exact leaves_refuse _ _

theorem leaves_volume (r : Request) : SiteM.Leaves view r.volume := by
  unfold Request.volume
  split
  · split
    · exact leaves_throw _
    · exact leaves_pure _
  · exact leaves_throw _

theorem leaves_deleteFile (filename : String) : SiteM.Leaves view (deleteFile filename) :=
  leaves_modify fun _ => rfl

end

theorem eq_of_requireName (h : requireName entered site = (.ok name, site'))
    : name = dropLeading '!' (strip entered) := by
  unfold requireName at h
  split at h
  · cases h
  · have hname : (.ok (dropLeading '!' (strip entered)) : Except Failure String) = .ok name :=
      congrArg Prod.fst h
    exact (Except.ok.inj hname).symm

theorem fresh_of_requireNewName (h : requireNewName name site = (.ok u, site')) :
    ∀ x ∈ site.bot.handlers, lower x.name ≠ lower name := by
  intro x hx hsame
  have hnames : commandNames site = (.ok (site.bot.handlers.map fun h => lower h.name), site) := rfl
  have htaken : (site.bot.handlers.map fun h => lower h.name).contains (lower name) :=
    contains_iff_mem.2 (mem_map.2 ⟨x, hx, hsame⟩)
  unfold requireNewName at h
  rw [run_bind_of_ok hnames, if_pos htaken] at h
  cases h

theorem settled_newName (h : site.bot.InStep) {k : String → SiteM β}
    (hk : ∀ site', site'.bot = site.bot → site'.bot.InStep →
      (∀ c ∈ storedCommands site'.bot.database, c.key ≠ lower (dropLeading '!' (strip entered))) →
      Settled site'.bot asked (k (dropLeading '!' (strip entered)) site')) :
    Settled site.bot asked ((do
      let name ← requireName entered
      requireNewName name
      k name) site) := by
  refine settled_read h (leaves_requireName entered) fun name site₁ hname hsame₁ h => ?_
  obtain rfl := eq_of_requireName hname
  refine settled_read h (leaves_requireNewName _) fun _ site₂ hnew hsame₂ h => ?_
  have hfresh := fresh_of_requireNewName hnew
  rw [← hsame₂] at hfresh
  exact hk site₂ (hsame₂.trans hsame₁) h (h.fresh hfresh)

theorem ok_of_volume {volume : Float} (h : r.volume site = (.ok volume, site')) :
    (r.body.bind (·.get? "volume")).bind numberIn? = some volume := by
  unfold Request.volume at h
  cases hvolume : (r.body.bind (·.get? "volume")).bind numberIn? with
  | none =>
    rw [hvolume] at h
    cases h
  | some x =>
    rw [hvolume] at h
    dsimp only at h
    split at h
    · cases h
    · cases h
      rfl

theorem renameClip_settled (h : site.bot.InStep) (r : Request) (former : String) :
    Settled site.bot (Asked r (.renameClip former)) (renameClip r former site) := by
  refine settled_read h (leaves_field r _) fun entered site₁ hentered _ h => ?_
  dsimp only
  split
  · exact settled_of_view h rfl
  refine settled_step h (fun failure site₂ hrun => ?_) fun u site₂ hrun => ?_
  · obtain ⟨fault, hperform⟩ := error_of_orRefuse hrun
    exact eq_of_perform_error hperform
  · obtain ⟨db, hrename, hbot⟩ := ok_of_perform (ok_of_orRefuse hrun)
    obtain ⟨⟨row, hrow, rfl⟩, rfl⟩ := ok_of_renameSoundboard hrename
    have houtages := congrArg outages hbot
    refine (settled_reload h houtages (.rename (get?_of_field hentered)) ?_).bind fun _ => leaves_goTo _
    rw [hbot]
    exact ⟨⟨_, ofClip_mem hrow, rfl⟩, storedCommands_renamed h.loadable.nodup hrow _⟩

theorem changeVolume_settled (h : site.bot.InStep) (r : Request) (name : String) :
    Settled site.bot (Asked r (.changeVolume name)) (changeVolume r name site) := by
  refine settled_read h (leaves_volume r) fun volume site₁ hvolume _ h => ?_
  refine settled_step h (fun failure site₂ hrun => ?_) fun u site₂ hrun => ?_
  · obtain ⟨fault, hperform⟩ := error_of_orRefuse hrun
    exact eq_of_perform_error hperform
  · obtain ⟨db, hadjust, hbot⟩ := ok_of_perform (ok_of_orRefuse hrun)
    obtain ⟨row, hrow, hname, rfl⟩ := ok_of_adjustSoundboard hadjust
    have houtages := congrArg outages hbot
    refine (settled_reload h houtages (.adjust (ok_of_volume hvolume)) ?_).bind fun _ => leaves_pure _
    rw [hbot]
    exact ⟨_, ofClip_mem hrow, hname, storedCommands_adjusted h.loadable.nodup hrow _⟩

theorem deleteClip_settled (h : site.bot.InStep) (r : Request) (name : String) :
    Settled site.bot (Asked r (.deleteClip name)) (deleteClip name site) := by
  refine settled_read h (leaves_read fun _ => rfl) fun rows site₁ hrows hsame₁ h => ?_
  obtain ⟨_, hread, -⟩ := ok_of_perform (ok_of_onBot hrows)
  cases hread
  cases hfind : site.bot.database.soundboard.find? fun row => lower row.name == lower name with
  | none => exact settled_of_view h rfl
  | some row =>
    have hrow := mem_of_find?_eq_some hfind
    have hname := find?_some hfind
    rw [← hsame₁] at hrow
    refine settled_read h (leaves_deleteFile _) fun _ site₂ _ hsame₂ h => ?_
    rw [← hsame₂] at hrow
    -- The site has found the clip in its way; the database looks again in its own, among all commands.
    refine settled_step h (fun failure site₃ hrun => ?_) fun found site₃ hrun => ?_
    · obtain ⟨fault, hperform⟩ := error_of_onBot hrun
      exact eq_of_perform_error hperform
    · obtain ⟨db, hremove, hbot⟩ := ok_of_perform (ok_of_onBot hrun)
      obtain ⟨rfl, rfl⟩ | ⟨rfl, gone, hgone, hsame, hremoved⟩ :=
        storedCommands_of_removeCommand h.loadable.nodup hremove
      · exact settled_of_view h (congrArg commandView hbot)
      · have houtages := congrArg outages hbot
        refine (settled_reload h houtages .remove ?_).bind fun _ => leaves_goTo _
        rw [hbot]
        exact ⟨_, ofClip_mem hrow, beq_iff_eq.1 hname, gone, hgone, hsame, hremoved⟩

theorem made_addClip {bot bot' : Bot} (hfresh : ∀ c ∈ storedCommands bot.database, c.key ≠ lower name)
    (hrun : (do let _ ← Bot.perform (addSoundboardCommand name filename uploader) : BotM Unit) bot = (.ok u, bot')) :
    bot'.outages = bot.outages ∧ bot'.database.pendingClips = bot.database.pendingClips ∧
      (Change.add name).Made (storedCommands bot.database) (storedCommands bot'.database) := by
  obtain ⟨row, between, hperform, hpure⟩ := run_ok_of_bind hrun
  cases hpure
  obtain ⟨db, hadd, rfl⟩ := ok_of_perform hperform
  obtain ⟨hrow, rfl⟩ := ok_of_addSoundboard hadd
  have hname : row.name = name := by rw [hrow]
  rw [← hname] at hfresh
  exact ⟨rfl, rfl, row, hname, hfresh, Bot.storedCommands_addSoundboard row⟩

theorem eq_of_addClip_fails {bot : Bot}
    (h : ((do let _ ← Bot.perform (addSoundboardCommand name filename uploader) : BotM Unit) bot).1 ≠ .ok ()) :
    ((do let _ ← Bot.perform (addSoundboardCommand name filename uploader) : BotM Unit) bot).2 = bot := by
  obtain ⟨row, db, -, hperform⟩ | ⟨fault, hperform⟩ :=
    Bot.run_perform (addSoundboardCommand name filename uploader) bot
  · rw [run_bind_of_ok hperform] at h
    exact absurd rfl h
  · rw [run_bind_of_error hperform]

def Site.nextFile (site : Site) (kind : Soundboard.AudioKind) : String :=
  hyphenated (site.issued + 1) ++ kind.extension

theorem keepFile_run (kind : Soundboard.AudioKind) (site : Site) :
    keepFile kind site = (.ok (site.nextFile kind), { site with
      issued := site.issued + 1, clipFiles := site.clipFiles ++ [site.nextFile kind] }) := rfl

section

variable {kind : Soundboard.AudioKind} {store : String → BotM Unit} {site' : Site}

theorem of_keepFileFor {result : Except Failure Unit} (h : keepFileFor kind store site = (result, site')) :
    site'.bot = (store (site.nextFile kind) site.bot).2 ∧
      ((store (site.nextFile kind) site.bot).1 = .ok () ↔ result = .ok ()) := by
  unfold keepFileFor at h
  rw [run_bind_of_ok (keepFile_run kind site), run_bind_of_ok (attempt_run _ _)] at h
  rcases hstore : store (site.nextFile kind) site.bot with ⟨fault | u, bot⟩
  · rw [hstore] at h
    dsimp only at h
    split at h <;> cases h <;> simp
  · rw [hstore] at h
    cases h
    simp

end

theorem mem_of_requirePending {id : Int} {row : PendingClip}
    (h : requirePending id site = (.ok row, site')) : row ∈ site.bot.database.pendingClips ∧ row.id = id := by
  obtain ⟨rows, between, hread, h⟩ := run_ok_of_bind h
  obtain ⟨db, hrows, -⟩ := ok_of_perform (ok_of_onBot hread)
  cases hrows
  cases hfind : (clipsByName site.bot.database.pendingClips).find? (·.id == id) with
  | none =>
    rw [hfind] at h
    cases h
  | some found =>
    rw [hfind] at h
    cases h
    have hid := find?_some hfind
    have hmem := mem_of_find?_eq_some hfind
    exact ⟨mem_mergeSort.1 hmem, beq_iff_eq.1 hid⟩

theorem uploadClip_settled (h : site.bot.InStep) (r : Request) (visitor : Visitor) :
    Settled site.bot (Asked r .uploadClip) (uploadClip r visitor site) := by
  refine settled_read h (leaves_field r _) fun entered site₁ hentered _ h => ?_
  refine settled_read h (leaves_file r _) fun upload site₂ _ _ h => ?_
  refine settled_newName h fun site₃ _ h hfresh => ?_
  split
  · exact settled_of_view h rfl
  refine settled_read h (leaves_audioKind upload) fun kind site₄ _ hsame₄ h => ?_
  rw [← hsame₄] at hfresh
  refine settled_step h (fun failure site₅ hrun => ?_) fun u site₅ hrun => ?_
  · obtain ⟨hbot, hok⟩ := of_keepFileFor hrun
    rw [hbot]
    exact eq_of_addClip_fails fun hadd => by cases hok.1 hadd
  · obtain ⟨hbot, hok⟩ := of_keepFileFor hrun
    obtain ⟨houtages, -, hmade⟩ := made_addClip hfresh (Prod.ext (hok.2 rfl) hbot.symm)
    exact (settled_reload h houtages (.upload (get?_of_field hentered)) hmade).bind fun _ => leaves_goTo _

theorem approveClip_settled (h : site.bot.InStep) (r : Request) (id : String) :
    Settled site.bot (Asked r (.approveClip id)) (approveClip r id site) := by
  refine settled_read h (leaves_integer id) fun number site₁ _ _ h => ?_
  refine settled_read h (leaves_field r _) fun entered site₂ hentered _ h => ?_
  refine settled_read h (leaves_requirePending number) fun row site₃ hpending hsame₃ h => ?_
  obtain ⟨hrow, hid⟩ := mem_of_requirePending hpending
  rw [← hsame₃] at hrow
  refine settled_newName h fun site₄ hsame₄ h hfresh => ?_
  rw [← hsame₄] at hrow
  refine settled_step h (fun failure site₅ hrun => ?_) fun u site₅ hrun => ?_
  · obtain ⟨fault, hadd⟩ := error_of_orRefuse hrun
    have hsame := eq_of_addClip_fails fun hok => by cases hok.symm.trans (congrArg Prod.fst hadd)
    rwa [hadd] at hsame
  · obtain ⟨houtages, hpendings, hmade⟩ := made_addClip hfresh (ok_of_orRefuse hrun)
    -- The clip is still waiting, so that it can be removed, and nothing keeps the commands from being read again.
    have hwaiting : row ∈ site₅.bot.database.pendingClips := hpendings ▸ hrow
    have hworking := Bot.working_of_outages (houtages.trans h.working)
    have hremove := Bot.perform_of_ok (hworking _) (removePending_run hwaiting hid)
    rw [run_bind_of_ok (orRefuse_of_ok hremove)]
    have hasked : Asked r (.approveClip id) _ := .approve (get?_of_field hentered)
    refine Settled.bind (settled_reload h ?_ hasked ?_) fun _ => ?_
    · exact houtages
    · exact hmade
    · refine (leaves_onBot (leaves_signature.bind fun _ => ?_)).bind fun _ => leaves_goTo _
      exact leaves_notify (fun _ _ => rfl) (fun _ _ => rfl) _ _ _ _

/-! ### Requests -/

def Route.changesClips : Route → Bool
  | .uploadClip | .renameClip _ | .changeVolume _ | .deleteClip _ | .approveClip _ => true
  | _ => false

theorem answerBroadcaster_settled (h : site.bot.InStep) (hroute : route.changesClips) (r : Request)
    (visitor : Visitor) : Settled site.bot (Asked r route) (answerBroadcaster r visitor route site) := by
  cases route with
  | uploadClip => exact uploadClip_settled h r visitor
  | renameClip former => exact renameClip_settled h r former
  | changeVolume name => exact changeVolume_settled h r name
  | deleteClip name => exact deleteClip_settled h r name
  | approveClip id => exact approveClip_settled h r id
  | _ => cases hroute

theorem Settled.of_view {now : Bot} (hview : now.commandView = before.commandView)
    (h : Settled now asked run) : Settled before asked run := by
  have hstored : storedCommands now.database = storedCommands before.database := congrArg (·.2.2) hview
  cases h with
  | kept same inStep => exact .kept (same.trans hview) inStep
  | made change isAsked isMade fine inStep =>
    rw [hstored] at isMade fine
    exact .made change isAsked isMade fine inStep
  | spoiled change isAsked isMade spoils empty unreadable fault failed =>
    rw [hstored] at isMade spoils
    exact .spoiled change isAsked isMade spoils empty unreadable fault failed

theorem answerRoute_settled (h : site.bot.InStep) (hroute : route.changesClips) (r : Request)
    (audience : Route.Audience) : Settled site.bot (Asked r route) (answerRoute r audience route site) := by
  cases audience with
  | everybody =>
    -- No other audience has routes that change clips.
    refine settled_of_view h ?_
    cases route <;> first | rfl | cases hroute
  | users =>
    refine settled_bind h rfl (leaves_visitor? r) fun visitor site₁ hview₁ => ?_
    refine settled_bind h hview₁ (leaves_requireVisitor visitor) fun visitor site₂ hview₂ => ?_
    refine settled_of_view h ?_
    cases route <;> first | exact hview₂ | cases hroute
  | broadcaster =>
    refine settled_bind h rfl (leaves_visitor? r) fun visitor site₁ hview₁ => ?_
    refine settled_bind h hview₁ (leaves_requireBroadcaster discreet_commandView fun _ _ => trivial)
      fun visitor site₂ hview₂ => ?_
    exact (answerBroadcaster_settled (h.of_view hview₂) hroute r visitor).of_view hview₂

/-- **Administration of the soundboard settles.**  A request to upload, rename, delete or approve a clip or to change
its volume leaves the commands as they are; or it changes them as it says, and memory is in step with the tables
again; or, exactly if a name is no pattern or a clip is given the name of another command, the bot has no commands and
cannot read them any more. -/
theorem answer_settled {r : Request} {route : Route} (h : site.bot.InStep)
    (hpath : (Route.ofPath r.path).2.lookup r.method = some route) (hroute : route.changesClips = true) :
    Settled site.bot (Asked r route) (answer r site) := by
  unfold answer
  dsimp only
  rw [hpath]
  refine settled_tryCatch (answerRoute_settled h hroute r _) (fun failure => ?_) fun fault => rfl
  cases failure with
  | refused status detail => exact fun _ => leaves_errorPage Bot.discreet_commandView r status detail fun _ _ _ => trivial
  | unprocessable => exact leaves_pure _
  | waits => exact leaves_throw _
  | fault fault => exact leaves_throw _

/-! ### A soundboard with one clip -/

def pass : String :=
  "eyJhbGciOiJIUzI1NiIsInR5cCI6IkpXVCJ9" ++
  ".eyJzdWIiOiIxIiwibG9naW4iOiJzdHJlYW1lciIsImRpc3BsYXlfbmFtZSI6IlN0cmVhbWVyIn0" ++
  ".joM0iI5oIO-OexIE7Y4o37UY67_xgstdHVVRnt_G1Ow"

def streamer : Visitor := ⟨"1", "streamer", "Streamer"⟩

theorem ofToken?_pass : Visitor.ofToken? "" ⟨0⟩ pass = some streamer := by decide +kernel

theorem visitor?_pass {tokens : TokenSet} (hcookie : Dict.get? r.cookies sessionCookie = some pass)
    (hsecret : site.bot.config.sessionSecret = "") (hclock : site.bot.clock.now = ⟨0⟩)
    (hworking : site.bot.outages.isEmpty)
    (htokens : (site.bot.database.tokenSets.filter (·.userId == "1")).foldl laterTokenSet none = some tokens) :
    visitor? r site = (.ok (some streamer), site) := by
  unfold visitor?
  rw [run_get_bind, hcookie, hsecret, hclock, Option.bind_some, ofToken?_pass]
  have hlookup : (getTwitchTokenSet streamer.id).run site.bot.database = .ok (some tokens, site.bot.database) := by
    rw [← htokens]
    rfl
  have hrun : attempt (Bot.perform (getTwitchTokenSet streamer.id)) site = (.ok (.ok (some tokens)), site) := by
    rw [attempt_run, Bot.perform_of_ok (Bot.working_of_outages (isEmpty_iff.1 hworking) _) hlookup]
  exact run_bind_of_ok hrun _

def answerKnown (r : Request) (visitor : Visitor) (audience : Route.Audience) (route : Route) : SiteM Reply :=
  match audience with
  | .everybody => answerPublic r (visitor? r) route
  | .users => answerUser r visitor route
  | .broadcaster => do answerBroadcaster r (← requireBroadcaster (some visitor)) route

theorem answerRoute_of_visitor (h : visitor? r site = (.ok (some visitor), site))
    (audience : Route.Audience) (route : Route) :
    answerRoute r audience route site = answerKnown r visitor audience route site := by
  cases audience with
  | everybody => rfl
  | users | broadcaster => exact run_bind_of_ok h _

theorem answer_of_visitor (audience : Route.Audience) (h : visitor? r site = (.ok (some visitor), site))
    (haudience : (Route.ofPath r.path).1 = audience) (hpath : (Route.ofPath r.path).2.lookup r.method = some route) :
    answer r site = tryCatch (answerKnown r visitor audience route) (answerFailure r) site := by
  unfold answer
  dsimp only
  rw [hpath, haudience]
  simp only [tryCatch, tryCatchThe, MonadExceptOf.tryCatch, ExceptT.tryCatch, ExceptT.mk, bind, StateT.bind,
    answerRoute_of_visitor h]

open Chat (Handler) in
def studio : Site where
  bot := { blank with
    config := { blank.config with channel := "Streamer" }
    database := {
      staticCommands := [⟨"a", "hi"⟩]
      soundboard := [{ name := "b", filename := "b.mp3", uploader := .nobody }]
      tokenSets := [⟨1, "1", "t", "r", 5⟩] }
    services := { users := [⟨"1", "streamer", "Streamer", ""⟩] }
    handlers := ⟨"a", .literal "a", (Trigger.Pattern.literal "a").isVaried, .respond "hi"⟩ ::
      ⟨"b", .literal "b", (Trigger.Pattern.literal "b").isVaried,
        .play (clipOf { name := "b", filename := "b.mp3", uploader := .nobody }) .nobody⟩ :: Handler.builtins }
  address := ""
  zones := []

def renameTo (name : String) : Request where
  method := .post
  path := "/admin/soundboard/update/b"
  form := [("command_name", name)]
  cookies := [(sessionCookie, pass)]

theorem inStep_studio : studio.bot.InStep := by
  refine inStep_of_handled rfl ⟨?_, ?_⟩ ⟨[_, _], .cons ?_ (.cons ?_ .nil), rfl⟩
  · decide +kernel
  · intro c hc
    rw [StoredCommand.exists_handler]
    rcases mem_cons.1 hc with rfl | hc
    · exact ⟨⟨_, rfl⟩, _, rfl⟩
    · obtain rfl := mem_singleton.1 hc
      exact ⟨⟨_, rfl⟩, _, rfl⟩
  · exact StoredCommand.handler_eq_ok.2 ⟨_, _, rfl, rfl, rfl⟩
  · exact StoredCommand.handler_eq_ok.2 ⟨_, _, rfl, rfl, rfl⟩

theorem path_renameTo (name : String) :
    (Route.ofPath (renameTo name).path).2.lookup (renameTo name).method = some (.renameClip "b") := by
  show (Route.ofPath "/admin/soundboard/update/b").2.lookup .post = some (.renameClip "b")
  decide +kernel

/-- The clip gets a name that is free. -/
theorem answer_settled_studio : studio.bot.InStep ∧
      (Route.ofPath (renameTo "c").path).2.lookup (renameTo "c").method = some (.renameClip "b") ∧
      (answer (renameTo "c") studio).2.bot.InStep := by
  refine ⟨inStep_studio, path_renameTo "c", ?_⟩
  cases answer_settled inStep_studio (path_renameTo "c") rfl with
  | kept same inStep => exact inStep
  | made change isAsked isMade fine inStep => exact inStep
  | spoiled change isAsked isMade spoils empty unreadable fault failed =>
    cases isAsked with
    | rename given =>
      cases given
      have hname : Text.replace (Text.lower (Text.strip "c")) "!" "" = "c" := by decide +kernel
      rw [hname] at spoils
      rcases spoils with hpattern | ⟨c, hc, -, hkey⟩
      · exact absurd rfl (hpattern (.literal "c"))
      · have hkeys : ∀ key ∈ (storedCommands studio.bot.database).map (·.key), key ≠ Text.lower "c" := by
          decide +kernel
        exact absurd hkey (hkeys c.key (mem_map_of_mem hc))

/-- The clip gets the name of the response, and the bot loses all of its commands. -/
theorem exists_commands_lost : ∃ (site : Site) (r : Request), site.bot.InStep ∧
      (Route.ofPath r.path).2.lookup r.method = some (.renameClip "b") ∧
      (answer r site).2.bot.handlers = [] ∧ ¬ (answer r site).2.bot.InStep := by
  have hempty : (answer (renameTo "a") studio).2.bot.handlers.isEmpty = true := by
    rw [answer_of_visitor .broadcaster (visitor?_pass rfl rfl rfl rfl rfl) (by decide +kernel) (path_renameTo "a")]
    decide +kernel
  have hnone := isEmpty_iff.1 hempty
  refine ⟨studio, renameTo "a", inStep_studio, path_renameTo "a", hnone, fun h => ?_⟩
  obtain ⟨own, -, hhandlers⟩ := h.handled
  rw [hnone] at hhandlers
  exact absurd (append_eq_nil_iff.1 hhandlers.symm).2 (cons_ne_nil _ _)

end Web
end StreamBot
