import Mathlib.Data.List.Nodup
import StreamBot.Bot.Loading
import StreamBot.Proofs.Bot.Computation
import StreamBot.Proofs.Trigger.Agreement

/-! # What is read from the database

The commands of all kinds in the tables, in the order in which they are read (`storedCommands`), and when they can
be read: no two of them have the same name without regard to case, and each has a handler (`Loadable`).  Main
statement: the commands are read if and only if they can be (`loadHandlers_eq_ok`), and the handlers are then those
of the commands, one for each, before those that are always there.  Memory is in step with the tables if it holds
these handlers (`InStep`).
-/

namespace StreamBot

open List

variable {c : StoredCommand} {handlers : List Handler} {commands : List StoredCommand}

namespace Bot

open Chat (Handler Action)

variable {bot : Bot} {db : Database} {added : List Handler}

/-- A command in the tables, with what it does if that can be read. -/
structure StoredCommand where
  name : String
  action : Except Fault Action

namespace StoredCommand

def ofStatic (row : Database.StaticCommand) : StoredCommand := ⟨row.name, .ok (.respond row.response)⟩

def ofParameterized (row : Database.ParameterizedCommand) (parameters : List String) : StoredCommand :=
  ⟨row.name, .ok (.fill row.response parameters)⟩

def ofClip (row : Database.SoundboardCommand) : StoredCommand := ⟨row.name, .ok (.play (clipOf row) row.uploader)⟩

def ofScript (row : Database.StoredScript) : StoredCommand := ⟨row.command, Action.execute <$> storedScript row⟩

def key (c : StoredCommand) : String := Text.lower c.name

def handler (c : StoredCommand) : Except Fault Handler := do
  let pattern ← (Trigger.ofName c.name).mapError .pattern
  return ⟨c.name, pattern, pattern.isVaried, ← c.action⟩

theorem handler_eq_ok {h : Handler} :
    c.handler = .ok h ↔ ∃ pattern action, Trigger.ofName c.name = .ok pattern ∧ c.action = .ok action ∧
      h = ⟨c.name, pattern, pattern.isVaried, action⟩ := by
  rw [handler]
  cases Trigger.ofName c.name <;> cases c.action <;>
    simp [Except.mapError, bind, Except.bind, pure, Except.pure, eq_comm]

theorem key_of_handler {h : Handler} (hc : c.handler = .ok h) : Text.lower h.name = c.key := by
  obtain ⟨pattern, action, -, -, rfl⟩ := handler_eq_ok.1 hc
  rfl

theorem ok_of_ofScript {row : Database.StoredScript} {action : Action}
    (h : (ofScript row).action = .ok action) : ∃ script, storedScript row = .ok script ∧ action = .execute script := by
  rw [ofScript] at h
  cases hscript : storedScript row with
  | error fault =>
    rw [hscript] at h
    cases h
  | ok script =>
    rw [hscript] at h
    cases h
    exact ⟨script, rfl, rfl⟩

end StoredCommand

/-- The commands in the tables, in the order in which they are read. -/
def storedCommands (db : Database) : List StoredCommand :=
  db.staticCommands.map .ofStatic ++
  db.parameterizedCommands.map (fun row => .ofParameterized row (db.parametersOf row.name)) ++
  db.soundboard.map .ofClip ++ db.scripts.map .ofScript

theorem ofStatic_mem {row : Database.StaticCommand} (h : row ∈ db.staticCommands) : .ofStatic row ∈ storedCommands db :=
  mem_append_left _ (mem_append_left _ (mem_append_left _ (mem_map_of_mem h)))

theorem ofParameterized_mem {row : Database.ParameterizedCommand} (h : row ∈ db.parameterizedCommands) :
    .ofParameterized row (db.parametersOf row.name) ∈ storedCommands db :=
  mem_append_left _ (mem_append_left _ (mem_append_right _ (mem_map.2 ⟨row, h, rfl⟩)))

theorem ofClip_mem {row : Database.SoundboardCommand} (h : row ∈ db.soundboard) : .ofClip row ∈ storedCommands db :=
  mem_append_left _ (mem_append_right _ (mem_map_of_mem h))

theorem ofScript_mem {row : Database.StoredScript} (h : row ∈ db.scripts) : .ofScript row ∈ storedCommands db :=
  mem_append_right _ (mem_map_of_mem h)

abbrev Handled (commands : List StoredCommand) (handlers : List Handler) : Prop :=
  List.Forall₂ (fun c h => c.handler = .ok h) commands handlers

theorem addHandler_eq_ok : addHandler handlers c.name c.action = .ok added ↔
      (∀ h ∈ handlers, Text.lower h.name ≠ c.key) ∧ ∃ h, c.handler = .ok h ∧ added = handlers ++ [h] := by
  by_cases hfresh : ∀ h ∈ handlers, Text.lower h.name ≠ c.key
  · have hany : handlers.any (fun h => Text.lower h.name == Text.lower c.name) = false := by
      simpa [StoredCommand.key] using hfresh
    rw [addHandler, hany, StoredCommand.handler, and_iff_right hfresh]
    cases Trigger.ofName c.name <;> cases c.action <;>
      simp [Except.mapError, bind, Except.bind, pure, Except.pure, throw, throwThe, MonadExceptOf.throw, eq_comm]
  · have hany : handlers.any (fun h => Text.lower h.name == Text.lower c.name) := by
      simpa [StoredCommand.key] using hfresh
    rw [addHandler, hany]
    simp only [hfresh, false_and, iff_false]
    nofun

theorem addHandlers_eq_ok : addHandlers (·.name) (·.action) handlers commands = .ok added ↔
      (∀ h ∈ handlers, ∀ c ∈ commands, Text.lower h.name ≠ c.key) ∧ (commands.map (·.key)).Nodup ∧
        ∃ own, Handled commands own ∧ added = handlers ++ own := by
  induction commands generalizing handlers with
  | nil =>
    simp [addHandlers, pure, Except.pure, eq_comm]
  | cons c rest ih =>
    have hstep : addHandlers (·.name) (·.action) handlers (c :: rest) =
        addHandler handlers c.name c.action >>= fun between =>
          addHandlers (·.name) (·.action) between rest := foldlM_cons ..
    rw [hstep]
    constructor
    · intro h
      cases hfirst : addHandler handlers c.name c.action with
      | error fault =>
        rw [hfirst] at h
        cases h
      | ok between =>
        rw [hfirst] at h
        obtain ⟨hnew, first, hhandler, rfl⟩ := addHandler_eq_ok.1 hfirst
        obtain ⟨hfresh, hnodup, own, hown, rfl⟩ := ih.1 h
        have hname := c.key_of_handler hhandler
        simp only [forall_mem_append, forall_mem_singleton, hname] at hfresh
        refine ⟨?_, ?_, first :: own, .cons hhandler hown, by simp⟩
        · intro h hmem
          exact forall_mem_cons.2 ⟨hnew h hmem, hfresh.1 h hmem⟩
        · refine nodup_cons.2 ⟨fun hmem => ?_, hnodup⟩
          obtain ⟨other, hother, heq⟩ := mem_map.1 hmem
          exact hfresh.2 other hother heq.symm
    · rintro ⟨hfresh, hnodup, own, hown, rfl⟩
      cases hown with
      | @cons _ first _ own hhandler hown =>
        have hname := c.key_of_handler hhandler
        obtain ⟨hnotin, hnodup⟩ := nodup_cons.1 hnodup
        rw [addHandler_eq_ok.2 ⟨fun h hmem => hfresh h hmem c mem_cons_self, first, hhandler, rfl⟩]
        refine ih.2 ⟨?_, hnodup, own, hown, by simp⟩
        simp only [forall_mem_append, forall_mem_singleton, hname]
        exact ⟨fun h hmem other hother => hfresh h hmem other (mem_cons_of_mem _ hother),
          fun other hother heq => hnotin (mem_map.2 ⟨other, hother, heq.symm⟩)⟩

/-- A computation has a result and changes nothing, unless the database does not work. -/
def Yields {α : Type} (bot : Bot) (x : BotM α) (r : Except Fault α) : Prop :=
  x bot = (r, bot) ∨ bot.outages ≠ [] ∧ ∃ fault, x bot = (.error fault, bot)

section Yields

variable {α β : Type} {a : α} {k : α → BotM β}

theorem Yields.perform {o : Database.Operation α} {r : Except Fault β} (h : o.run bot.database = .ok (a, bot.database))
    (hk : bot.Yields (k a) r) : bot.Yields (perform o >>= k) r := by
  obtain ⟨_, _, hrun, hperform⟩ | ⟨fault, hperform⟩ := run_perform o bot
  · cases h.symm.trans hrun
    rw [Yields, run_bind_of_ok hperform]
    exact hk
  · refine .inr ⟨fun hnone => ?_, fault, run_bind_of_error hperform _⟩
    cases hperform.symm.trans (perform_of_ok (working_of_outages hnone _) h)

theorem Yields.lift {x : Except Fault α} {f : α → Except Fault β} (hk : ∀ a, bot.Yields (k a) (f a)) :
    bot.Yields (liftM x >>= k) (x >>= f) := by
  cases x with
  | error fault => exact .inl rfl
  | ok a => exact hk a

end Yields

/-- The tables are read in turn. -/
theorem yields_loadHandlers (bot : Bot) : bot.Yields loadHandlers
    ((· ++ Handler.builtins) <$> addHandlers (·.name) (·.action) [] (storedCommands bot.database)) := by
  have hsplit : (· ++ Handler.builtins) <$> addHandlers (·.name) (·.action) [] (storedCommands bot.database) = (do
      let db := bot.database
      let handlers ← addHandlers (·.name) (fun row => .ok (.respond row.response)) [] db.staticCommands
      let handlers ← addHandlers (·.1.name) (fun p => .ok (.fill p.1.response p.2)) handlers
        (db.parameterizedCommands.map fun row => (row, db.parametersOf row.name))
      let handlers ← addHandlers (·.name) (fun row => .ok (.play (clipOf row) row.uploader)) handlers db.soundboard
      let handlers ← addHandlers (·.command) (fun row => Action.execute <$> storedScript row) handlers db.scripts
      return handlers ++ Handler.builtins) := by
    simp only [addHandlers, storedCommands, StoredCommand.ofStatic, StoredCommand.ofParameterized,
      StoredCommand.ofClip, StoredCommand.ofScript, foldlM_append, foldlM_map, bind_assoc, map_eq_pure_bind]
  rw [hsplit]
  refine .perform rfl (.lift fun _ => .perform rfl (.lift fun _ => .perform rfl (.lift fun _ => ?_)))
  exact .perform rfl (.lift fun _ => .inl rfl)

theorem loadHandlers_run (hworking : bot.outages = []) : loadHandlers bot =
    ((· ++ Handler.builtins) <$> addHandlers (·.name) (·.action) [] (storedCommands bot.database), bot) :=
  (yields_loadHandlers bot).resolve_right fun h => h.1 hworking

structure Loadable (db : Database) : Prop where
  nodup : ((storedCommands db).map (·.key)).Nodup
  handled : ∀ c ∈ storedCommands db, ∃ h, c.handler = .ok h

theorem Handled.exists (h : ∀ c ∈ commands, ∃ h, c.handler = .ok h) : ∃ own, Handled commands own := by
  induction commands with
  | nil => exact ⟨[], .nil⟩
  | cons c rest ih =>
    obtain ⟨⟨first, hfirst⟩, hrest⟩ := forall_mem_cons.1 h
    obtain ⟨own, hown⟩ := ih hrest
    exact ⟨first :: own, .cons hfirst hown⟩

theorem addHandlers_storedCommands {own : List Handler} :
    addHandlers (·.name) (·.action) [] (storedCommands db) = .ok own ↔
      ((storedCommands db).map (·.key)).Nodup ∧ Handled (storedCommands db) own := by
  rw [addHandlers_eq_ok]
  simp

theorem ok_of_loadHandlers {after : Bot} (h : loadHandlers bot = (.ok handlers, after)) :
    ((storedCommands bot.database).map (·.key)).Nodup ∧
      ∃ own, Handled (storedCommands bot.database) own ∧ handlers = own ++ Handler.builtins := by
  obtain hrun | ⟨-, fault, hrun⟩ := yields_loadHandlers bot
  · rw [hrun] at h
    cases hown : addHandlers (·.name) (·.action) [] (storedCommands bot.database) with
    | error fault =>
      rw [hown] at h
      cases h
    | ok own =>
      rw [hown] at h
      cases h
      obtain ⟨hnodup, hhandled⟩ := addHandlers_storedCommands.1 hown
      exact ⟨hnodup, own, hhandled, rfl⟩
  · cases hrun.symm.trans h

theorem loadHandlers_eq_ok (hworking : bot.outages = []) {handlers : List Handler} :
    loadHandlers bot = (.ok handlers, bot) ↔ ((storedCommands bot.database).map (·.key)).Nodup ∧
      ∃ own, Handled (storedCommands bot.database) own ∧ handlers = own ++ Handler.builtins := by
  refine ⟨ok_of_loadHandlers, ?_⟩
  rintro ⟨hnodup, own, hown, rfl⟩
  rw [loadHandlers_run hworking, addHandlers_storedCommands.2 ⟨hnodup, hown⟩]
  rfl

theorem loadable_of_loadHandlers (h : loadHandlers bot = (.ok handlers, bot)) : Loadable bot.database := by
  obtain ⟨hnodup, own, hown, -⟩ := ok_of_loadHandlers h
  exact ⟨hnodup, fun c hc => (Trigger.exists_right_of_forall₂ hown hc).imp fun _ h => h.2⟩

def cleared (bot : Bot) : Bot := { bot with handlers := [] }

theorem reloadHandlers_of_loadable (hworking : bot.outages = []) (h : Loadable bot.database) :
    ∃ own, Handled (storedCommands bot.database) own ∧
      reloadHandlers bot = (.ok (), { bot with handlers := own ++ Handler.builtins }) := by
  have hworking' : bot.cleared.outages = [] := hworking
  obtain ⟨own, hown⟩ := Handled.exists h.handled
  have hload := (loadHandlers_eq_ok hworking').2 ⟨h.nodup, own, hown, rfl⟩
  refine ⟨own, hown, ?_⟩
  show (loadHandlers >>= _) bot.cleared = _
  rw [run_bind_of_ok hload]
  rfl

theorem reloadHandlers_of_not_loadable (hworking : bot.outages = []) (h : ¬ Loadable bot.database) :
    ∃ fault, reloadHandlers bot = (.error fault, { bot with handlers := [] }) := by
  have hworking' : bot.cleared.outages = [] := hworking
  have hload := loadHandlers_run hworking'
  cases hadd : addHandlers (·.name) (·.action) [] (storedCommands bot.cleared.database) with
  | error fault =>
    rw [hadd] at hload
    refine ⟨fault, ?_⟩
    exact run_bind_of_error hload _
  | ok own =>
    rw [hadd] at hload
    exact absurd (loadable_of_loadHandlers hload) h

/-! ### Memory in step with the tables -/

/-- What it depends on whether the commands in memory are those in the tables. -/
def commandView (bot : Bot) : List Handler × List Outage × List StoredCommand :=
  (bot.handlers, bot.outages, storedCommands bot.database)

theorem discreet_commandView : Discreet Set.univ commandView :=
  discreet_of_tokenless (fun _ _ => rfl) fun _ _ => rfl

/-- The database works, and the commands in memory are those in the tables: these can be read, and memory holds one
handler for each of them before those that are always there. -/
structure InStep (bot : Bot) : Prop where
  working : bot.outages = []
  loads : loadHandlers bot = (.ok bot.handlers, bot)
  handled : ∃ own, Handled (storedCommands bot.database) own ∧ bot.handlers = own ++ Handler.builtins

theorem InStep.loadable (h : bot.InStep) : Loadable bot.database := loadable_of_loadHandlers h.loads

theorem inStep_of_handled (hworking : bot.outages = []) (hloadable : Loadable bot.database)
    (hhandled : ∃ own, Handled (storedCommands bot.database) own ∧ bot.handlers = own ++ Handler.builtins) :
    bot.InStep :=
  ⟨hworking, (loadHandlers_eq_ok hworking).2 ⟨hloadable.nodup, hhandled⟩, hhandled⟩

theorem InStep.of_view {bot' : Bot} (h : bot.InStep) (hview : bot'.commandView = bot.commandView) : bot'.InStep := by
  simp only [commandView, Prod.mk.injEq] at hview
  obtain ⟨hhandlers, houtages, hstored⟩ := hview
  refine inStep_of_handled (houtages.trans h.working) ?_ ?_
  · exact ⟨by rw [hstored]; exact h.loadable.nodup, by rw [hstored]; exact h.loadable.handled⟩
  · rw [hstored, hhandlers]
    exact h.handled

theorem InStep.fresh (h : bot.InStep) {name : String} (hnew : ∀ x ∈ bot.handlers, Text.lower x.name ≠ Text.lower name) :
    ∀ c ∈ storedCommands bot.database, c.key ≠ Text.lower name := by
  intro c hc
  obtain ⟨own, hown, hhandlers⟩ := h.handled
  obtain ⟨x, hx, hhandler⟩ := Trigger.exists_right_of_forall₂ hown hc
  rw [← StoredCommand.key_of_handler hhandler]
  exact hnew x (hhandlers ▸ mem_append_left _ hx)

end Bot
end StreamBot
