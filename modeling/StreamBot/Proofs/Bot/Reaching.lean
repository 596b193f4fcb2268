import StreamBot.Proofs.Bot.Managing

/-! # Commands that are found are reached

Commands are found by the lower case of their names and taken from the database by a lower case that changes ASCII letters
only.  Main statement: an update or a removal does what it says to the command that was found if the database finds that
command by its own name (`update_remove_reach`), and not otherwise (`exists_command_out_of_reach`).
-/

namespace StreamBot.Bot

open List Text StoredCommand Database
open Chat (Handler)

variable {bot : Bot}

/-- A removal whose handler is found changes the tables as the database does by the name of the handler. -/
theorem manage_remove (hworking : bot.outages = []) {name : String} {handler : Handler} {db : Database}
    (hfind : bot.handlers.find? (·.pattern.matches (lower (nameArgument name))) = some handler)
    (hclip : handler.isClip = false) (hrun : (removeCommandCaseInsensitive handler.name).run bot.database = .ok (true, db))
    (rest : List String) :
    ∃ text, manage ("remove" :: name :: rest) bot = (.ok (some ⟨true, text⟩), { bot with database := db }) := by
  have hremove : ∃ text, removeCommand name bot = (.ok ⟨true, text⟩, { bot with database := db }) := by
    rw [removeCommand, run_get_bind, hfind]
    dsimp only
    rw [if_neg (by simp [hclip]), run_bind_of_ok (perform_of_ok (working_of_outages hworking _) hrun)]
    exact ⟨_, rfl⟩
  obtain ⟨text, hremove⟩ := hremove
  refine ⟨text, ?_⟩
  show (some <$> removeCommand name) bot = _
  rw [BotM.map_run, hremove]
  rfl

/-- **An update or a removal reaches the command that was found.**  An update that succeeds puts the new command in the place of
the one that has its name without regard to case; a removal succeeds and takes away the command whose handler matches the name,
and no other.  Both times the handlers are those that the tables give.  For this the database has to find the command by its
own name. -/
theorem update_remove_reach (h : bot.Steady) (name : String) :
    (∀ response parameters text message, message = "update" :: name :: response :: parameters →
      (manage message bot).1 = .ok (some ⟨true, text⟩) →
      (∀ old ∈ responseNames bot.database, lower old = lower (nameArgument name) → sameName old old = true) →
      ∃ now, manageCommands message bot = (.ok (some [text]), now) ∧
        Replaces (storedCommands bot.database) (storedCommands now.database)
          (.ofResponse (nameArgument name) response parameters) ∧
        now.Orderly ∧ loadHandlers now = (.ok now.handlers, now)) ∧
    ∀ handler c rest, bot.handlers.find? (·.pattern.matches (lower (nameArgument name))) = some handler →
      c ∈ storedCommands bot.database → c.handler = .ok handler → handler.isClip = false → sameName c.name c.name = true →
      ∃ text now, (manage ("remove" :: name :: rest) bot).1 = .ok (some ⟨true, text⟩) ∧
        manageCommands ("remove" :: name :: rest) bot = (.ok (some [text]), now) ∧
        storedCommands now.database = (storedCommands bot.database).filter (·.key != c.key) ∧
        now.Orderly ∧ loadHandlers now = (.ok now.handlers, now) := by
  constructor
  · rintro response parameters text message rfl hsuccess hfound
    have hanswerable : bot.Answerable ("update" :: name :: response :: parameters) := by
      refine ⟨fun _ heq => by cases heq; exact hfound, fun word _ _ _ heq hscript => ?_⟩
      cases heq
      exact absurd hscript (by decide +kernel)
    have hsettles := manageCommands_settles h hanswerable
    obtain ⟨hanswer, heffect⟩ := hsettles.changed text hsuccess
    generalize manageCommands ("update" :: name :: response :: parameters) bot = result at hsettles hanswer heffect ⊢
    refine ⟨result.2, Prod.ext hanswer rfl, ?_, hsettles.steady.toOrderly, hsettles.steady.loadHandlers⟩
    cases heffect with
    | update _ replaces => exact replaces
    | add said | addScript said | remove said => exact absurd said (by decide +kernel)
  · intro handler c rest hfind hc hhandler hclip hfound
    obtain ⟨p, action, -, -, rfl⟩ := handler_eq_ok.1 hhandler
    obtain ⟨db, hrun⟩ := exists_removeCommand h.nodup hc hfound
    obtain ⟨hclean, gone, -, hkey, hfilter⟩ := h.clean.removed hrun
    obtain ⟨now, hreload, hdatabase, -, hsteady⟩ := @Clean.reload { bot with database := db } h.working hclean
    obtain ⟨text, hmanage⟩ := manage_remove h.working hfind hclip hrun rest
    refine ⟨text, now, congrArg Prod.fst hmanage, ?_, ?_, hsteady.toOrderly, hsteady.loadHandlers⟩
    · rw [manageCommands, run_bind_of_ok hmanage]
      exact run_bind_of_ok hreload _
    · rw [hdatabase, ← show gone.key = c.key from hkey]
      exact hfilter

theorem update_remove_reach_greeting : greeting.Steady ∧
    ∃ text now, manageCommands ["remove", "!HI"] greeting = (.ok (some [text]), now) ∧ storedCommands now.database = [] := by
  have hsteady := manageable_greeting.steady
  have hhandler : (ofStatic ⟨"Hi", "hello"⟩).handler = .ok _ := handler_eq_ok.2 ⟨_, _, rfl, rfl, rfl⟩
  have hfind : greeting.handlers.find? (·.pattern.matches (lower (nameArgument "!HI"))) = some _ := rfl
  obtain ⟨text, now, -, hremove, hnone, -⟩ :=
    (update_remove_reach hsteady "!HI").2 _ _ [] hfind mem_cons_self hhandler rfl (by decide +kernel)
  exact ⟨hsteady, text, now, hremove, hnone⟩

/-- A command that the database does not find by its own name is out of reach: it cannot be removed, and an update that
reports success leaves it beside the new one, so that no command can be read. -/
theorem exists_command_out_of_reach : ∃ (bot : Bot) (name : String), bot.Steady ∧
    (∃ after, manage ["update", name, "new"] bot = (.ok (some ⟨true, ""⟩), after) ∧
      ((storedCommands after.database).filter (·.key == lower (nameArgument name))).length = 2) ∧
    (manageCommands ["update", name, "new"] bot).2.handlers = [] ∧
    ∃ handler, ∃ c ∈ storedCommands bot.database, c.handler = .ok handler ∧ handler.isClip = false ∧
      bot.handlers.find? (·.pattern.matches (lower (nameArgument name))) = some handler ∧
      manage ["remove", name] bot = (.ok (some ⟨false, ""⟩), bot) := by
  have hremove : manage ["remove", "k"] kelvin = (.ok (some ⟨false, ""⟩), kelvin) := by
    show (some <$> removeCommand "k") kelvin = _
    rw [BotM.map_run]
    rfl
  exact ⟨kelvin, "k", ⟨orderly_kelvin, fun p hp => absurd hp not_mem_nil, rfl⟩, ⟨_, manage_kelvin, by decide +kernel⟩,
    handlers_kelvin, _, _, mem_cons_self, handler_eq_ok.2 ⟨_, _, rfl, rfl, rfl⟩, rfl, rfl, hremove⟩

end StreamBot.Bot
