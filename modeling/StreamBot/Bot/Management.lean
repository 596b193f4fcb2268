import StreamBot.Bot.Platform
import StreamBot.Bot.Scripts

/-! # Managing commands through the chat

Commands with a response, with or without parameters, and scripts can be added and removed in the chat.
Clips cannot: they are managed on the web.  A new command must not be called by a text that calls another
one already.
-/

namespace StreamBot.Bot

open Database

open Chat (TranslationKey)
open Trigger (Pattern)

/-- What comes of an attempt: whether the commands changed, and what the bot says. -/
structure Outcome where
  changed : Bool
  response : String

def refused (key : TranslationKey) : BotM Outcome := return ⟨false, ← translation key⟩

def done (key : TranslationKey) : BotM Outcome := return ⟨true, ← translation key⟩

def patternOf (name : String) : BotM Pattern :=
  match Trigger.ofName name with
  | .ok pattern => return pattern
  | .error fault => throw (.pattern fault)

/-- The first name of a stored command that a text can mean as well as it means the given pattern. -/
def overlapping? (pattern : Pattern) : List String → BotM (Option String)
  | [] => return none
  | name :: rest => do
    if Trigger.overlap pattern (← patternOf name) then return some name
    overlapping? pattern rest

def handlerOverlaps (pattern : Pattern) : BotM Bool := do
  return (← get).handlers.any fun h => Trigger.overlap pattern h.pattern

def nameArgument (argument : String) : String := Text.dropLeading '!' argument

/-- Adds a command with a response; one without parameters always has the same response. -/
def storeCommand (name response : String) (parameters : List String) : BotM Unit := do
  match parameters with
  | [] => let _ ← perform (addStaticCommand name response)
  | _ => let _ ← perform (addParameterizedCommand name response parameters)

/-- Adds a command with a response, or puts it in the place of the one with the same name. -/
def addOrUpdate (isUpdate : Bool) (argument response : String) (parameters : List String) :
    BotM Outcome := do
  let name := nameArgument argument
  let pattern ← patternOf name
  let clips := (← perform getSoundboardCommands).map (·.name)
  if (← overlapping? pattern clips).isSome then
    return ← refused .cannotAddOrUpdateSoundboardCommand
  let scripts := (← perform getScripts).map (·.command)
  if (← overlapping? pattern scripts).isSome then
    return ← refused .cannotAddOrUpdateScriptCommand
  let statics := (← perform getStaticCommands).map (·.name)
  let parameterized := (← perform getParameterizedCommands).map (·.1.name)
  match ← overlapping? pattern (statics ++ parameterized) with
  | none =>
    if ← handlerOverlaps pattern then return ← refused .builtinCommandCannotBeChanged
    if isUpdate then return ← refused .commandToUpdateNotFound
    storeCommand name response parameters
    done .commandAdded
  | some existing =>
    if !isUpdate then return ← refused .commandAlreadyExists
    if Text.lower existing != Text.lower name then
      return ← refused .commandUpdateCausesAmbiguity
    let _ ← perform (removeCommandCaseInsensitive existing)
    storeCommand name response parameters
    done .commandUpdated

/-- A script with the first values of its stores, ready to be stored. -/
structure PreparedScript where
  json : String
  stores : List NewStore

/-- The first values of stores, in order; each may use those before it.  A failure is reported in words. -/
def prepareStores (owner : String) (known : Dict Script.StoreKey Script.Value)
    (prepared : List NewStore) : List Script.Store → BotM (Except String (List NewStore))
  | [] => return .ok prepared
  | store :: rest => do
    let bot ← get
    let frame : Script.Frame := { callStack := [owner], stores := known }
    let (result, bot) := (store.value.eval bot.storeHost).run frame bot
    set bot
    match result with
    | .error fault => return .error s!"Error evaluating store '{store.name}': {fault.message}"
    | .ok (v, _) =>
      let row : NewStore := ⟨store.name, store.toJson.render, v.toJson.render⟩
      prepareStores owner (Dict.set known ⟨owner, store.name⟩ v) (prepared ++ [row]) rest

/-- Reads a script and finds the first values of its stores.  A failure is reported in words. -/
def prepareScript (name source : String) : BotM (Except String PreparedScript) := do
  match Script.ofSource name source with
  | .error fault => return .error s!"Script parsing error: {fault.message}"
  | .ok script =>
    match ← prepareStores script.name [] [] script.stores with
    | .error text => return .error text
    | .ok stores => return .ok ⟨script.toJson.render, stores⟩

def fetch (url : String) : BotM (Except String String) := do
  match ← page? url with
  | some (.text content) => return .ok content
  | some .badStatus => return .ok ""
  | none => return .error "unreachable"

/-- Prepares the script that a text is, or else the one behind the address that it is. -/
def findScript (name source : String) : BotM (Except String PreparedScript) := do
  match ← prepareScript name source with
  | .ok prepared => return .ok prepared
  | .error _ =>
    match ← fetch source with
    | .error text => return .error ("Failed to fetch script from URL: " ++ text)
    | .ok content => prepareScript name content

def addScript (argument source : String) : BotM Outcome := do
  let name := nameArgument argument
  let pattern ← patternOf name
  if ← handlerOverlaps pattern then return ← refused .commandAlreadyExists
  match ← findScript name source with
  | .error text => return ⟨false, text⟩
  | .ok prepared =>
    let _ ← perform (Database.addScript name source prepared.json prepared.stores)
    done .commandAdded

def removeCommand (argument : String) : BotM Outcome := do
  let name := Text.lower (nameArgument argument)
  match (← get).handlers.find? (·.pattern.matches name) with
  | none => refused .commandToDeleteNotFound
  | some handler =>
    if handler.isClip then return ← refused .soundboardManagedViaWebUi
    if ← perform (removeCommandCaseInsensitive handler.name) then done .commandRemoved
    else refused .commandToDeleteNotFound

def manage (arguments : List String) : BotM (Option Outcome) := do
  match arguments with
  | first :: more =>
    match Text.lower first, more with
    | "add", name :: response :: parameters => some <$> addOrUpdate false name response parameters
    | "add-script", name :: source :: _ => some <$> addScript name source
    | "update", name :: response :: parameters => some <$> addOrUpdate true name response parameters
    | "remove", name :: _ => some <$> removeCommand name
    | _, _ => return none
  | [] => return none

/-- Manages commands, and reads them again if they changed; none if the arguments mean nothing. -/
def manageCommands (arguments : List String) : BotM (Option (List String)) := do
  match ← manage arguments with
  | none => return none
  | some outcome =>
    if outcome.changed then reloadHandlers
    return some [outcome.response]

end StreamBot.Bot
