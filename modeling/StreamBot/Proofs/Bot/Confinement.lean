import StreamBot.Proofs.Bot.Managing
import StreamBot.Proofs.Bot.Reach

/-! # What a message cannot change

A message of a viewer or of a moderator cannot change what is held from them (`heldFromViewers`, `heldFromModerators`), and
it takes nobody out of the giveaway (`Confined`, `process_confined`).

A moderator may remove commands but no clips.  The database removes by name whatever has the name, clips included, and it
compares names in another way than the bot; but as long as the commands in memory are those of the tables (`Loaded`), a
name that is removed is the name of no clip (`Loaded.spares_response`, `Loaded.spares_found`).
-/

namespace StreamBot

open Database

open Chat (Handler Message)

variable {held : Bot → τ}

namespace Bot

variable {τ : Type} {view : Bot → τ} {bot : Bot} {handler : Handler} {name : String}

/-! ### Clips that are not removed -/

/-- The commands in memory are those that are read from the tables, with those that are always there. -/
def Loaded (bot : Bot) : Prop :=
  loadHandlers { bot with outages := [] } = (.ok bot.handlers, { bot with outages := [] })

theorem Loaded.handled (h : bot.Loaded) : ((storedCommands bot.database).map (·.key)).Nodup ∧
    ∃ own, Handled (storedCommands bot.database) own ∧ bot.handlers = own ++ Handler.builtins :=
  @ok_of_loadHandlers _ { bot with outages := [] } _ h

theorem spares_of_no_clip (h : Unmanaged view)
    (hno : ∀ row ∈ bot.database.soundboard, sameName row.name name = false) : Spares view bot name := by
  rw [Spares]
  obtain ⟨found, db, hrun, hperform⟩ | ⟨fault, hperform⟩ := run_perform (removeCommandCaseInsensitive name) bot
  · rw [hperform]
    obtain ⟨-, rfl⟩ | ⟨-, ⟨row, hrow, hname, rfl⟩ | ⟨row, hrow, hname, rfl⟩ | ⟨row, hrow, hname, rfl⟩ |
      ⟨row, hrow, hname, rfl⟩⟩ := ok_of_removeCommand hrun
    · rfl
    · exact h.tables bot _ _ _ _ _
    · exact h.tables bot _ _ _ _ _
    · rw [hno row hrow] at hname
      cases hname
    · exact h.tables bot _ _ _ _ _
  · rw [hperform]

theorem eq_of_sameName {db : Database} (hnodup : ((storedCommands db).map (·.key)).Nodup) {c d : StoredCommand}
    (hc : c ∈ storedCommands db) (hd : d ∈ storedCommands db) (h : sameName c.name d.name) : c = d :=
  List.inj_on_of_nodup_map hnodup hc hd (Text.lower_eq_of_sameName h)

theorem Loaded.spares_response (hloaded : bot.Loaded) (h : Unmanaged view)
    (hname : name ∈ responseNames bot.database) : Spares view bot name := by
  refine spares_of_no_clip h fun row hrow => ?_
  by_contra hsame
  rw [Bool.not_eq_false] at hsame
  have hnodup := hloaded.handled.1
  rcases List.mem_append.1 hname with hmem | hmem
  · obtain ⟨other, hother, rfl⟩ := List.mem_map.1 hmem
    cases congrArg StoredCommand.action (eq_of_sameName hnodup (ofClip_mem hrow) (ofStatic_mem hother) hsame)
  · obtain ⟨other, hother, rfl⟩ := List.mem_map.1 hmem
    cases congrArg StoredCommand.action (eq_of_sameName hnodup (ofClip_mem hrow) (ofParameterized_mem hother) hsame)

/-- A handler that is found and plays no clip does not have the name of one: a clip with the name of a handler that is
always there would have been found before it. -/
theorem Loaded.spares_found (hloaded : bot.Loaded) (h : Unmanaged view) {text : String}
    (hfind : bot.handlers.find? (·.pattern.matches text) = some handler) (hclip : handler.isClip = false) :
    Spares view bot handler.name := by
  obtain ⟨hnodup, own, hown, hhandlers⟩ := hloaded.handled
  refine spares_of_no_clip h fun row hrow => ?_
  by_contra hsame
  rw [Bool.not_eq_false] at hsame
  obtain ⟨clip, hmem, hhandler⟩ := Trigger.exists_right_of_forall₂ hown (ofClip_mem hrow)
  obtain ⟨pattern, action, hpattern, haction, rfl⟩ := StoredCommand.handler_eq_ok.1 hhandler
  rw [hhandlers, List.find?_append] at hfind
  cases hfound : own.find? (·.pattern.matches text) with
  | some found =>
    rw [hfound] at hfind
    obtain rfl : found = handler := Option.some.inj hfind
    obtain ⟨c, hc, hfrom⟩ := Trigger.exists_left_of_forall₂ hown (List.mem_of_find?_eq_some hfound)
    obtain ⟨q, action', -, haction', rfl⟩ := StoredCommand.handler_eq_ok.1 hfrom
    obtain rfl := eq_of_sameName hnodup (ofClip_mem hrow) hc hsame
    cases haction'
    cases hclip
  | none =>
    rw [hfound, Option.none_or] at hfind
    have hbuiltin : handler ∈ Handler.builtins := List.mem_of_find?_eq_some hfind
    have hmatches := List.find?_some hfind
    have hsamePattern : Trigger.ofName row.name = Trigger.ofName handler.name := by
      rw [Trigger.ofName, Text.lower_eq_of_sameName hsame, Trigger.ofName]
    have heq : pattern = handler.pattern := by
      rw [ofName_builtin handler hbuiltin] at hsamePattern
      exact Except.ok.inj (hpattern.symm.trans hsamePattern)
    have hmiss := List.find?_eq_none.1 hfound _ hmem
    rw [heq] at hmiss
    exact hmiss hmatches

/-! ### What is held from whom -/

/-- What a moderator does not change: the clips, the constants, the broadcasts, the settings, whether the soundboard is
switched on and how far the giveaway is. -/
def heldFromModerators (bot : Bot) : List SoundboardCommand × List Constant × List Broadcast ×
    Dict SettingKind String × Bool × Chat.Giveaway.Phase :=
  (bot.database.soundboard, bot.database.constants, bot.database.broadcasts, bot.database.settings, bot.soundboardEnabled,
    bot.giveaway.phase)

/-- The tables of the commands that are managed in the chat. -/
def managedTables (db : Database) : List StaticCommand × List ParameterizedCommand ×
    List Parameter × List StoredScript :=
  (db.staticCommands, db.parameterizedCommands, db.parameters, db.scripts)

/-- What a viewer does not change either: the other commands, and the words in the table and in memory. -/
def heldFromViewers (bot : Bot) :=
  (bot.heldFromModerators, managedTables bot.database, bot.database.dictionary, bot.dictionary.entries)

/-- What is held is the same, and nobody has left the giveaway. -/
structure Confined (held : Bot → τ) (bot now : Bot) : Prop where
  held : held now = held bot
  participants : bot.giveaway.participants <+: now.giveaway.participants

theorem confined_of_eq {now : Bot} (h : (held now, now.giveaway) = (held bot, bot.giveaway)) :
    Confined held bot now := by
  obtain ⟨hheld, hgiveaway⟩ := Prod.mk.inj h
  exact ⟨hheld, by rw [hgiveaway]⟩

theorem casual_heldFromViewers : Casual fun bot => (heldFromViewers bot, bot.giveaway) :=
  ⟨⟨fun _ _ => rfl, fun _ _ => rfl, fun _ _ => rfl, fun _ _ => rfl⟩, fun _ _ => rfl, fun _ _ => rfl⟩

theorem unmanaged_heldFromModerators : Unmanaged fun bot => (heldFromModerators bot, bot.giveaway) :=
  ⟨⟨fun _ _ => rfl, fun _ _ => rfl, fun _ _ => rfl, fun _ _ => rfl⟩, fun _ _ _ _ _ _ => rfl⟩

theorem casual_heldFromModerators : Casual fun bot => (heldFromModerators bot, bot.giveaway) :=
  ⟨unmanaged_heldFromModerators.toReserved, fun _ _ => rfl, fun _ _ => rfl⟩

theorem enter_eq (g : Chat.Giveaway) (p : Chat.Participant) :
    ∃ people, g.participants <+: people ∧ (g.enter p).1 = { g with participants := people } := by
  rw [Chat.Giveaway.enter]
  split
  · split
    · exact ⟨_, List.prefix_rfl, rfl⟩
    · exact ⟨_, List.prefix_append _ _, rfl⟩
  · exact ⟨_, List.prefix_rfl, rfl⟩

theorem handle_confined (h : Casual fun bot => (held bot, bot.giveaway))
    (hentering : ∀ bot people, held { bot with giveaway := { bot.giveaway with participants := people } } = held bot)
    (hlevel : handler.level ≠ .admin) {message : Message} {arguments : List String}
    (hmanaging : handler.level = .moderator → Confined held bot (manageCommands arguments bot).2 ∧
      Confined held bot (manageDictionary message arguments bot).2) :
    Confined held bot (handle handler message arguments bot).2 := by
  have hdoes := handle_does handler message arguments
  generalize handle handler message arguments = x at hdoes
  cases hdoes with
  | answers _ leaves => exact confined_of_eq (leaves h.toReserved (fun _ => leaves_play h) bot)
  | enters =>
    obtain ⟨people, hpeople, henter⟩ := enter_eq bot.giveaway ⟨message.sender, message.platform⟩
    rw [enterGiveaway_run]
    split
    · dsimp only
      rw [henter]
      exact ⟨hentering bot people, hpeople⟩
    · exact confined_of_eq rfl
  | commands level => exact (hmanaging level).1
  | words level => exact (hmanaging level).2
  | giveaway level | soundboard level => exact absurd level hlevel

theorem managing_confined (hloaded : bot.Loaded) (message : Message) (arguments : List String) :
    Confined heldFromModerators bot (manageCommands arguments bot).2 ∧
      Confined heldFromModerators bot (manageDictionary message arguments bot).2 := by
  have hunmanaged := unmanaged_heldFromModerators
  constructor
  · refine confined_of_eq (manageCommands_view hunmanaged ?_ ?_ (fun _ _ => rfl) arguments)
    · exact fun name hname => hloaded.spares_response hunmanaged hname
    · exact fun text found hfind hclip => hloaded.spares_found hunmanaged hfind hclip
  · have hleaves : Leaves (fun bot => (heldFromModerators bot, bot.giveaway)) (manageDictionary message arguments) :=
      leaves_manageDictionary (fun _ _ => rfl) (fun _ _ => rfl) message arguments
    exact confined_of_eq (hleaves bot)

theorem Confined.process (h : Casual fun bot => (held bot, bot.giveaway)) {incoming : Station.Incoming}
    (entrance : Option Entrance) (hcall : Confined held bot (bot.afterCall incoming.message)) :
    Confined held bot (process incoming.message entrance (Station.answer incoming) bot).2 := by
  obtain ⟨hheld, hgiveaway⟩ := Prod.mk.inj (process_view h incoming entrance bot)
  exact ⟨hheld.trans hcall.held, by rw [hgiveaway]; exact hcall.participants⟩

/-- A message of a viewer changes no commands, words, constants, broadcasts and settings, does not switch the soundboard
and does not start or end the giveaway, nor does anybody leave it.  A message of a moderator may change commands and
words, but no clips and nothing else of this, if the commands in memory are those that are read from the tables. -/
theorem process_confined (incoming : Station.Incoming) (entrance : Option Entrance) (bot : Bot) :
    let now := (process incoming.message entrance (Station.answer incoming) bot).2
    (incoming.message.level = .viewer → Confined heldFromViewers bot now) ∧
      (bot.Loaded → incoming.message.level = .moderator → Confined heldFromModerators bot now) := by
  refine ⟨fun hlevel => ?_, fun hloaded hlevel => ?_⟩
  · refine Confined.process casual_heldFromViewers entrance (afterCall_cases (confined_of_eq rfl) ?_)
    intro handler arguments hcall
    have hcovers := covers_of_call? hcall
    rw [hlevel] at hcovers
    refine handle_confined casual_heldFromViewers (fun _ _ => rfl) (fun hrequired => ?_) fun hrequired => ?_ <;>
      rw [hrequired] at hcovers <;> cases hcovers
  · refine Confined.process casual_heldFromModerators entrance (afterCall_cases (confined_of_eq rfl) ?_)
    intro handler arguments hcall
    have hcovers := covers_of_call? hcall
    refine handle_confined casual_heldFromModerators (fun _ _ => rfl) (fun hrequired => ?_) fun _ =>
      managing_confined hloaded _ _
    rw [hlevel, hrequired] at hcovers
    cases hcovers

def fanfare : Bot :=
  { blank with
    database := {
      staticCommands := [⟨"Hi", "hello"⟩]
      soundboard := [{ name := "Fanfare", filename := "fanfare.mp3" }] }
    handlers := [
      ⟨"Hi", .literal "hi", (Trigger.Pattern.literal "hi").isVaried, .respond "hello"⟩,
      ⟨"Fanfare", .literal "fanfare", (Trigger.Pattern.literal "fanfare").isVaried,
        .play ⟨Soundboard.fileUrl "fanfare.mp3", 1.0⟩ .nobody⟩] ++ Handler.builtins
    giveaway := ⟨.running, [⟨"ann", .twitch⟩]⟩ }

theorem loaded_fanfare : fanfare.Loaded := by
  have hhandler {c : StoredCommand} {pattern : Trigger.Pattern} {action : Chat.Action}
      (hpattern : Trigger.ofName c.name = .ok pattern) (haction : c.action = .ok action) :
      c.handler = .ok ⟨c.name, pattern, pattern.isVaried, action⟩ :=
    StoredCommand.handler_eq_ok.2 ⟨pattern, action, hpattern, haction, rfl⟩
  refine (@loadHandlers_eq_ok { fanfare with outages := [] } rfl _).2 ⟨by decide +kernel, [_, _], ?_, rfl⟩
  exact .cons (hhandler rfl rfl) (.cons (hhandler rfl rfl) .nil)

/-- A viewer does not end the giveaway, and a moderator does not remove the clip. -/
theorem process_confined_fanfare : fanfare.Loaded ∧
    Confined heldFromViewers fanfare (process ⟨"!giveaway end", "bob", .viewer, .twitch, none⟩ none
      (Station.answer ⟨⟨"!giveaway end", "bob", .viewer, .twitch, none⟩, none⟩) fanfare).2 ∧
    Confined heldFromModerators fanfare (process ⟨"!command remove FANFARE", "cleo", .moderator, .twitch, none⟩ none
      (Station.answer ⟨⟨"!command remove FANFARE", "cleo", .moderator, .twitch, none⟩, none⟩) fanfare).2 :=
  ⟨loaded_fanfare, (process_confined ⟨⟨"!giveaway end", "bob", .viewer, .twitch, none⟩, none⟩ none fanfare).1 rfl,
    (process_confined ⟨⟨"!command remove FANFARE", "cleo", .moderator, .twitch, none⟩, none⟩ none fanfare).2
      loaded_fanfare rfl⟩

end Bot
end StreamBot
