import StreamBot.Bot.State
import StreamBot.Json.Reader
import StreamBot.Script.Encoding

/-! # Reading the database

The commands are read in the order of their kinds, and those that are always there follow.  No two commands
may have the same name without regard to case.
-/

namespace StreamBot.Bot

open Chat (Handler Action)

def addHandler (handlers : List Handler) (name : String) (action : Except Fault Action) :
    Except Fault (List Handler) := do
  if handlers.any fun h => Text.lower h.name == Text.lower name then throw .duplicateName
  match Trigger.ofName name with
  | .ok pattern => return handlers ++ [⟨name, pattern, pattern.isVaried, ← action⟩]
  | .error fault => throw (.pattern fault)

def addHandlers {α : Type} (name : α → String) (action : α → Except Fault Action)
    (handlers : List Handler) (rows : List α) : Except Fault (List Handler) :=
  rows.foldlM (fun handlers row => addHandler handlers (name row) (action row)) handlers

def storedScript (row : Database.StoredScript) : Except Fault Script :=
  match (Json.parse? row.json).bind Script.read? with
  | some script => .ok script
  | none => .error .unreadableScript

def clipOf (row : Database.SoundboardCommand) : Soundboard.Clip :=
  ⟨Soundboard.fileUrl row.filename, row.volume⟩

def loadHandlers : BotM (List Handler) := do
  let handlers ← addHandlers (·.name) (fun row => .ok (.respond row.response)) []
    (← perform Database.getStaticCommands)
  let handlers ← addHandlers (·.1.name) (fun (row, parameters) => .ok (.fill row.response parameters))
    handlers (← perform Database.getParameterizedCommands)
  let handlers ← addHandlers (·.name) (fun row => .ok (.play (clipOf row) row.uploader))
    handlers (← perform Database.getSoundboardCommands)
  let handlers ← addHandlers (·.command) (fun row => Action.execute <$> storedScript row)
    handlers (← perform Database.getScripts)
  return handlers ++ Handler.builtins

/-- Reads the commands again.  There are none in the meantime, nor if they cannot be read. -/
def reloadHandlers : BotM Unit := do
  modify fun bot => { bot with handlers := [] }
  let handlers ← loadHandlers
  modify fun bot => { bot with handlers }

def loadBroadcasters : BotM Unit := do
  let rows ← perform Database.getBroadcasts
  modify fun bot =>
    { bot with broadcasters := Chat.Broadcaster.ofRows bot.clock.monotonic rows }

/-- Reads the messages that are broadcast again, and has them sent from now on. -/
def reloadBroadcasters : BotM Unit := do
  modify fun bot => { bot with broadcasters := [] }
  loadBroadcasters
  modify fun bot => { bot with requests := bot.requests ++ [.reloadBroadcasters] }

def loadTranslations : BotM Unit := do
  let translations ← perform Database.getTranslations
  match Chat.TranslationKey.all.find? fun key => !translations.any (·.key == key) with
  | some key => throw (.missingTranslation key)
  | none => modify fun bot => { bot with translations }

def load : BotM Unit := do
  reloadHandlers
  loadBroadcasters
  let entries ← perform Database.getDictionaryEntries
  modify fun bot => { bot with dictionary := ⟨entries, []⟩ }
  loadTranslations

end StreamBot.Bot
