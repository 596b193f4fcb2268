import StreamBot.Proofs.Bot.NewScripts

/-! # Stores survive in the database, or do not

Values are put into the database when a script is added and when an execution ends.  They can be read again
only if they are texts or finite numbers (`Value.restorable`); a single store with another value is enough
that no execution of its script can start.  Main statement: `storeKeeper_recalls`.
-/

namespace StreamBot

open List Dict

namespace Script

/-! ### Values that can be read again -/

/-- A value that was kept can be read again: a text or a finite number. -/
def Value.restorable : Value → Bool
  | .number x => x.isFinite
  | .string _ => true
  | .bool _ => false
  | .list _ _ => false

theorem Value.ofStored?_render (v : Value) :
    (Json.parse? v.toJson.render).bind Value.ofStored? = if v.restorable then some v else none := by
  rw [Json.parse?_render]
  cases v with
  | number x =>
    have hwritten : (Value.number x).toJson.written =
        .obj [("kind", .str "number"), ("value", if x.isFinite then .float x else .null)] := rfl
    rw [hwritten, Value.restorable]
    cases x.isFinite <;> rfl
  | string | bool | list => rfl

end Script

namespace Bot

open Script (Act Host StoreKey Value)

variable {α : Type} {bot bot' : Bot}

/-! ### Reading -/

/-- What reading gives where values were put: all of them, or a failure if one cannot be read. -/
def recalled (values : Dict StoreKey Value) : Except Script.Fault (Dict StoreKey Value) :=
  if values.all (·.2.restorable) then .ok values else .error unreadableValue

def Holds (bot : Bot) (p : StoreKey × Value) : Prop :=
  bot.database.keptText p.1 = some p.2.toJson.render

theorem onBehalf_of_ok {x : BotM α} {a : α} (h : x bot = (.ok a, bot')) : onBehalf x bot = (.ok a, bot') := by
  rw [onBehalf, h]

theorem readStore_of_holds (hworking : bot.Working "get_script_store") {p : StoreKey × Value} (hholds : bot.Holds p) :
    readStore p.1 bot = (if p.2.restorable then .ok (some p.2) else .error unreadableValue, bot) := by
  obtain ⟨row, hrow, htext⟩ := Option.map_eq_some_iff.mp hholds
  have hget : onBehalf (perform (Database.getScriptStore p.1.script p.1.name)) bot = (.ok (some row), bot) :=
    onBehalf_of_ok (perform_of_ok hworking (by rw [← hrow]; rfl))
  rw [readStore, Act.bind_run, hget]
  dsimp only
  rw [htext, Value.ofStored?_render]
  cases p.2.restorable <;> rfl

theorem foldlM_readInto (hworking : bot.Working "get_script_store") {found values : Dict StoreKey Value}
    (hnodup : (Dict.keys found ++ Dict.keys values).Nodup) (hholds : ∀ p ∈ values, bot.Holds p) :
    (Dict.keys values).foldlM readInto found bot =
      (if values.all (·.2.restorable) then .ok (found ++ values) else .error unreadableValue, bot) := by
  induction values generalizing found with
  | nil =>
    rw [append_nil]
    rfl
  | cons p values ih =>
    obtain ⟨hp, hholds⟩ := forall_mem_cons.mp hholds
    have hfresh : p.1 ∉ Dict.keys found := fun hmem =>
      (nodup_append.mp hnodup).2.2 p.1 hmem p.1 mem_cons_self rfl
    have hread : readInto found p.1 bot =
        (if p.2.restorable then .ok (found ++ [p]) else .error unreadableValue, bot) := by
      rw [readInto, Act.bind_run, readStore_of_holds hworking hp]
      cases p.2.restorable with
      | true => exact congrArg (fun d => (Except.ok d, bot)) (Dict.set_of_not_mem p.2 hfresh)
      | false => rfl
    rw [Dict.keys_cons, foldlM_cons, Act.bind_run, hread, all_cons]
    cases p.2.restorable with
    | false => rfl
    | true =>
      have hnext : (Dict.keys (found ++ [p]) ++ Dict.keys values).Nodup := by
        simpa [Dict.keys] using hnodup
      have hrest := ih hnext hholds
      rw [append_assoc] at hrest
      exact hrest

theorem read_of_holds (hworking : bot.Working "get_script_store") {values : Dict StoreKey Value}
    (hnodup : (keys values).Nodup) (hholds : ∀ p ∈ values, bot.Holds p) :
    storeKeeper.read (keys values) bot = (recalled values, bot) :=
  @foldlM_readInto bot hworking [] values hnodup hholds

/-! ### Writing -/

theorem write_holds (hworking : bot.Working "update_script_store_value") {values : Dict StoreKey Value}
    (hnodup : (Dict.keys values).Nodup) (hkept : ∀ key ∈ Dict.keys values, (bot.database.keptText key).isSome) :
    ∃ db, storeKeeper.write values bot = (.ok (), { bot with database := db }) ∧
      (∀ p ∈ values, db.keptText p.1 = some p.2.toJson.render) ∧
      (∀ key ∉ Dict.keys values, db.keptText key = bot.database.keptText key) ∧
      (bot.database.StoresOwned → db.StoresOwned) := by
  induction values generalizing bot with
  | nil => exact ⟨bot.database, rfl, fun _ hp => absurd hp not_mem_nil, fun _ _ => rfl, id⟩
  | cons p values ih =>
    rw [Dict.keys_cons, nodup_cons] at hnodup
    obtain ⟨hp, hkept⟩ := forall_mem_cons.mp hkept
    let next : Bot := { bot with database := bot.database.withText p.1 p.2.toJson.render }
    have hwrite : writeStore p bot = (.ok (), next) :=
      onBehalf_of_ok (perform_of_ok hworking (Database.updateScriptStoreValue_run hp _))
    have hother {key : StoreKey} (hkey : key ∈ Dict.keys values) :
        next.database.keptText key = bot.database.keptText key :=
      Database.keptText_withText_of_ne (fun heq : key = p.1 => hnodup.1 (heq ▸ hkey)) _
    obtain ⟨db, hrest, hheld, hunchanged, howned⟩ := @ih next hworking hnodup.2 (fun key hkey => by
      rw [hother hkey]
      exact hkept key hkey)
    refine ⟨db, ?_, forall_mem_cons.mpr ⟨?_, hheld⟩, fun key hkey => ?_, fun hold => ?_⟩
    · change (writeStore p >>= fun _ => storeKeeper.write values) bot = _
      rw [Act.bind_run, hwrite]
      exact hrest
    · rw [hunchanged p.1 hnodup.1]
      exact Database.keptText_withText_self hp _
    · rw [Dict.keys_cons, mem_cons, not_or] at hkey
      rw [hunchanged key hkey.2]
      exact Database.keptText_withText_of_ne hkey.1 _
    · exact howned (hold.withText _ _)

/-! ### After a script was added -/

section

variable {name source : String} {script : Script} {values : Dict StoreKey Value}

theorem Added.working (h : bot.Added name source script values bot') {operation : String}
    (hworking : bot.Working operation) : bot'.Working operation := by
  obtain ⟨-, -, journal, stores, -, rfl⟩ := h
  exact hworking

theorem Added.storesOwned (h : bot.Added name source script values bot')
    (howned : bot.database.StoresOwned) : bot'.database.StoresOwned := by
  obtain ⟨-, -, journal, stores, -, rfl⟩ := h
  exact howned.withScript _ _

theorem Added.keptText_of_ne (h : bot.Added name source script values bot') {key : StoreKey}
    (hkey : key.script ≠ name) : bot'.database.keptText key = bot.database.keptText key := by
  obtain ⟨-, -, journal, stores, -, rfl⟩ := h
  exact Database.keptText_withScript_of_ne _ stores hkey

theorem Added.holds (h : bot.Added name source script values bot')
    (howned : bot.database.StoresOwned) : ∀ p ∈ values, bot'.Holds p := by
  obtain ⟨⟨before, text, -, hprepares⟩, hfresh, journal, stores, htexts, rfl⟩ := h
  intro p hp
  have hscript : p.1.script = name := by
    have hmem : p.1 ∈ script.storeKeys := hprepares.keys ▸ mem_map_of_mem hp
    obtain ⟨store, -, hkey⟩ := mem_map.mp hmem
    rw [← hkey, hprepares.name_eq]
  rw [Holds, Database.keptText_withScript_self howned hfresh stores hscript, htexts, get?_renderings,
    get?_of_mem hprepares.nodup hp]
  rfl

theorem execute_of_holds (hworking : bot.Working "get_script_store")
    (hkeys : keys values = script.storeKeys) (hnodup : (keys values).Nodup)
    (hholds : ∀ p ∈ values, bot.Holds p) (h : Host Bot)
    {arguments : List String} (hcount : arguments.length = script.parameters.length) :
    script.execute h storeKeeper arguments bot = if values.all (·.2.restorable) then
        Script.executeFrom h storeKeeper script arguments values bot
      else (.error unreadableValue, bot) := by
  rw [Script.execute_eq_read_bind h storeKeeper hcount, Act.bind_run, ← hkeys,
    read_of_holds hworking hnodup hholds, recalled]
  cases values.all (·.2.restorable) <;> rfl

end

/-- Whichever of some stores are read, reading gives what was put into them. -/
def Recalls (bot : Bot) (values : Dict StoreKey Value) : Prop :=
  ∀ part : Dict StoreKey Value, part.Sublist values → storeKeeper.read (keys part) bot = (recalled part, bot)

theorem recalls_of_holds (hworking : bot.Working "get_script_store") {values : Dict StoreKey Value}
    (hnodup : (keys values).Nodup) (hholds : ∀ p ∈ values, bot.Holds p) : bot.Recalls values :=
  fun _ hpart => read_of_holds hworking (hnodup.sublist (hpart.map _))
    fun p hp => hholds p (hpart.subset hp)

/-- **What is put into stores can be read again if all of it is texts and finite numbers; otherwise reading
fails.**  So it is for values that are written over others, and for the first values of a script that is
added: the script then starts an execution with these values, or cannot be executed at all.  The other
stores keep what they hold. -/
theorem storeKeeper_recalls (hread : bot.Working "get_script_store") (howned : bot.database.StoresOwned) :
    (∀ values : Dict StoreKey Value, bot.Working "update_script_store_value" →
      (Dict.keys values).Nodup → (∀ key ∈ Dict.keys values, (bot.database.keptText key).isSome) →
      ∃ bot', storeKeeper.write values bot = (.ok (), bot') ∧ bot'.Recalls values ∧
        (∀ key ∉ Dict.keys values, bot'.database.keptText key = bot.database.keptText key) ∧
        bot'.database.StoresOwned) ∧
    ∀ argument source outcome bot', addScript argument source bot = (.ok outcome, bot') → outcome.changed = true →
      ∃ script values, bot.Added (nameArgument argument) source script values bot' ∧ bot'.Recalls values ∧
        (∀ key : StoreKey, key.script ≠ nameArgument argument →
          bot'.database.keptText key = bot.database.keptText key) ∧
        bot'.database.StoresOwned ∧
        ∀ (h : Host Bot) (arguments : List String), arguments.length = script.parameters.length →
          script.execute h storeKeeper arguments bot' = if values.all (·.2.restorable) then
              Script.executeFrom h storeKeeper script arguments values bot'
            else (.error unreadableValue, bot') := by
  constructor
  · intro values hwrite hnodup hkept
    obtain ⟨db, hrun, hholds, hothers, howns⟩ := write_holds hwrite hnodup hkept
    have hread : Working { bot with database := db } "get_script_store" := hread
    exact ⟨_, hrun, recalls_of_holds hread hnodup hholds, hothers, howns howned⟩
  · intro argument source outcome bot' hadd hchanged
    obtain ⟨-, script, values, hadded⟩ := ok_of_addScript hadd hchanged
    have hholds := hadded.holds howned
    have hread := hadded.working hread
    obtain ⟨before, text, -, hprepares⟩ := hadded.taken
    refine ⟨script, values, hadded, recalls_of_holds hread hprepares.nodup hholds,
      fun key hkey => hadded.keptText_of_ne hkey, hadded.storesOwned howned, ?_⟩
    intro h arguments hcount
    exact execute_of_holds hread hprepares.keys hprepares.nodup hholds h hcount

def keeping : Bot := { blank with database := { scripts := [⟨"a", "", ""⟩], scriptStores := [⟨"a", "s", "", ""⟩] } }

theorem storesOwned_keeping : keeping.database.StoresOwned := by
  intro row hrow
  obtain rfl := mem_singleton.mp hrow
  exact ⟨_, mem_cons_self, rfl⟩

def texting : Script where
  name := "b"
  stores := [⟨"s", .stringLiteral "x"⟩]
  parameters := []
  statements := [.print (.store "s" .string)]

theorem prepares_texting : keeping.Prepares "b" "STORE s = 'x'; PRINT s;" texting [(⟨"b", "s"⟩, .string "x")] :=
  ⟨by cbv, rfl⟩

/-- Both ways, with texts. -/
theorem storeKeeper_recalls_keeping : (∃ bot', storeKeeper.write [(⟨"a", "s"⟩, .string "y")] keeping = (.ok (), bot') ∧
      storeKeeper.read [⟨"a", "s"⟩] bot' = (.ok [(⟨"a", "s"⟩, .string "y")], bot')) ∧
    ∃ outcome bot', addScript "b" "STORE s = 'x'; PRINT s;" keeping = (.ok outcome, bot') ∧ outcome.changed = true ∧
      storeKeeper.read [⟨"b", "s"⟩] bot' = (.ok [(⟨"b", "s"⟩, .string "x")], bot') := by
  obtain ⟨hwrites, hadds⟩ := @storeKeeper_recalls keeping rfl storesOwned_keeping
  constructor
  · obtain ⟨bot', hwrite, hrecalls, -⟩ := hwrites [(⟨"a", "s"⟩, .string "y")] rfl (by decide) (by decide)
    exact ⟨bot', hwrite, hrecalls _ (.refl _)⟩
  · obtain ⟨outcome, bot', hadd, hchanged⟩ :=
      @Prepares.addScript keeping _ "b" _ _ _ prepares_texting rfl rfl rfl (by decide)
    obtain ⟨script, values, hadded, hrecalls, -⟩ := hadds "b" _ outcome bot' hadd hchanged
    obtain ⟨-, rfl⟩ := hadded.eq_of_prepares prepares_texting
    exact ⟨outcome, bot', hadd, hchanged, hrecalls _ (.refl _)⟩

/-- A script that changes a store and has a flag that it never looks at. -/
def flagged : Script where
  name := "a"
  stores := [⟨"b", .boolLiteral true⟩, ⟨"s", .stringLiteral "old"⟩]
  parameters := []
  statements := [.assign (.store "s" .string) (.stringLiteral "new")]

theorem prepares_flagged : blank.Prepares "a" "STORE b = true; STORE s = 'old'; s = 'new';" flagged
    [(⟨"a", "b"⟩, .bool true), (⟨"a", "s"⟩, .string "old")] :=
  ⟨by cbv, rfl⟩

/-- A script that was added can fail before its first statement, whatever executes it. -/
theorem exists_added_not_executable :
    ∃ (bot : Bot) (argument source : String) (outcome : Outcome) (bot' : Bot) (script : Script)
      (values : Dict StoreKey Value),
      addScript argument source bot = (.ok outcome, bot') ∧ outcome.changed = true ∧
        bot.Added (nameArgument argument) source script values bot' ∧
        ∀ h : Host Bot, script.execute h storeKeeper [] bot' = (.error unreadableValue, bot') := by
  obtain ⟨outcome, bot', hadd, hchanged⟩ :=
    @Prepares.addScript blank _ "a" _ _ _ prepares_flagged rfl rfl rfl (by decide)
  obtain ⟨-, script, values, hadded⟩ := ok_of_addScript hadd hchanged
  obtain ⟨rfl, rfl⟩ := hadded.eq_of_prepares prepares_flagged
  refine ⟨blank, "a", _, outcome, bot', flagged, _, hadd, hchanged, hadded, fun h => ?_⟩
  exact execute_of_holds (hadded.working rfl) prepares_flagged.keys prepares_flagged.nodup
    (hadded.holds Database.storesOwned_empty) h rfl

end Bot
end StreamBot
