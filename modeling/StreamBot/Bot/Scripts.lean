import StreamBot.Bot.Loading
import StreamBot.Script.Execution

/-! # Scripts of the bot

The stores of scripts are kept in the database, as JSON.  Scripts call each other by the names of their
commands.
-/

namespace StreamBot.Bot

open Script (Act Host Keeper StoreKey Value)

def onBehalf {α : Type} (x : BotM α) : Act Bot α := fun bot =>
  match x bot with
  | (.ok a, bot) => (.ok a, bot)
  | (.error fault, bot) => (.error (.host fault.message), bot)

def unreadableValue : Script.Fault := .host "The value of a store is neither a number nor a string"

def readStore (key : StoreKey) : Act Bot (Option Value) := do
  match ← onBehalf (perform (Database.getScriptStore key.script key.name)) with
  | none => return none
  | some row =>
    match (Json.parse? row.valueJson).bind Value.ofStored? with
    | some v => return some v
    | none => throw unreadableValue

def readInto (found : Dict StoreKey Value) (key : StoreKey) : Act Bot (Dict StoreKey Value) := do
  match ← readStore key with
  | some v => return Dict.set found key v
  | none => return found

def writeStore (p : StoreKey × Value) : Act Bot Unit :=
  onBehalf (perform (Database.updateScriptStoreValue p.1.script p.1.name p.2.toJson.render))

def storeKeeper : Keeper Bot where
  read keys := keys.foldlM readInto []
  write values := values.forM writeStore

/-- Calls a script by the name of its command, which is in lower case and may have an exclamation mark
before it.  The script must have an output. -/
def callScript (h : Host Bot) (name : String) (arguments : List String) : Act Bot String := do
  let name := Text.lower (Text.dropPrefix name "!")
  match ← onBehalf (perform (Database.getScript name)) with
  | none => throw (.host s!"Script '{name}' not found.")
  | some row =>
    let script ← onBehalf (storedScript row)
    match ← script.execute h storeKeeper arguments with
    | some output => return output
    | none => throw (.host s!"Script '{name}' did not return any output.")

def pause : Act Bot Unit := do
  match (← get).pausesLeft with
  | none => return ()
  | some 0 => throw .stopped
  | some (n + 1) => modify fun bot => { bot with pausesLeft := some n }

def scriptWorld (bot : Bot) : Script.World := ⟨bot.clock.now, bot.chance, bot.files⟩

def scriptHost (bot : Bot) : Host Bot := Script.hostOf bot.scriptWorld pause callScript

/-- The host of the first values of stores, which cannot call scripts. -/
def storeHost (bot : Bot) : Host Bot :=
  Script.hostOf bot.scriptWorld (pure ()) fun _ _ _ => throw (.host "")

/-- The pauses after which a script is stopped whose time is up at once. -/
def pausesWithoutTime : Nat := 2

def scriptTimeout : BotM Int := do
  match ← perform (Database.retrieveConfigurationSetting .scriptTimeout) with
  | none => throw .invalidTimeout
  | some text =>
    if !Text.isDigits text then throw .invalidTimeout
    match Text.integer? text with
    | some n => return n
    | none => throw (.notInteger text)

/-- The pauses that a script may make while the others wait for it. -/
def patience : Nat := 1000

/-- A script has the time for more pauses than the others wait for. -/
def takesLong (script : Script) (arguments : List String) (bot : Bot) : Bool :=
  let result := (script.execute bot.scriptHost storeKeeper arguments { bot with pausesLeft := some patience }).1
  match (scriptTimeout bot).1, result with
  | .ok seconds, .error .stopped => decide (seconds ≠ 0)
  | _, _ => false

def runScript (name : String) (script : Script) (arguments : List String) :
    BotM (Option (List String)) := do
  let seconds ← scriptTimeout
  if seconds = 0 then
    modify fun bot => { bot with pausesLeft := some pausesWithoutTime }
  let bot ← get
  let (result, bot) := script.execute bot.scriptHost storeKeeper arguments bot
  set { bot with pausesLeft := none }
  if seconds = 0 then
    return some [s!"Script '!{name}' execution timed out (exceeded {seconds}s)"]
  match result with
  | .ok output => return output.map fun text => [text]
  | .error fault =>
    return some [s!"An error occurred while executing the script '!{name}': {fault.message}"]

end StreamBot.Bot
