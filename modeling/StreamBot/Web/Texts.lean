import StreamBot.Web.MainPage
import StreamBot.Web.Settings

/-! # Constants and broadcasts -/

namespace StreamBot.Web

open Database

/-! ## Constants -/

def toConstants : Reply := .seeOther "/admin/constants"

def constantsPage (frame : List (String × Json)) : SiteM Reply := do
  return .page "admin/constants.html" (framed frame "constants" [("constants", ← constantRows)])

def addConstant (r : Request) : SiteM Reply := do
  let name ← r.field "constant_name"
  let text ← r.field "constant_text"
  let _ ← orRefuse (some 400) none (Bot.perform (Database.addConstant name text))
  return toConstants

def changeConstant (r : Request) (old : String) : SiteM Reply := do
  let name ← r.field "constant_name"
  let text ← r.field "constant_text"
  let _ ← orRefuse (some 400) (some 400) do
    Bot.perform (removeConstant old)
    Bot.perform (Database.addConstant name text)
  return toConstants

def deleteConstant (name : String) : SiteM Reply := do
  orRefuse none (some 404) (Bot.perform (removeConstant name))
  return toConstants

/-! ## Broadcasts -/

def toBroadcasts : Reply := .seeOther "/admin/broadcasts"

def broadcastsPage (frame : List (String × Json)) : SiteM Reply := do
  let rows ← perform getBroadcasts
  let commands := (← perform getStaticCommands).map fun c => "!" ++ c.name
  return .page "admin/broadcasts.html" (framed frame "broadcasts" [
    ("broadcasts", Json.ofList (·.toJson) (rows.mergeSort fun a b => a.id ≤ b.id)),
    ("static_commands", Json.ofTexts (commands.mergeSort (· ≤ ·)))])

/-- The command that stands for a broadcast must be one with a fixed response. -/
def checkAlias (aliasCommand : Option String) : BotM Bool := do
  match aliasCommand with
  | none => return true
  | some text =>
    if !Text.startsWith text "!" then return false
    return (← Bot.perform getStaticCommands).any (·.name == Text.dropPrefix text "!")

def storeBroadcast (interval : Int) (aliasCommand : String) (absence : Option Nat)
    (store : Option String → BotM Unit) : SiteM Reply := do
  if interval < 1 then return ← refuse 400 "Interval must be at least 1 second"
  let aliasCommand := Text.strip aliasCommand
  let aliasCommand? := if aliasCommand.isEmpty then none else some aliasCommand
  if !(← orRefuse (some 400) absence (checkAlias aliasCommand?)) then
    return ← refuse 400 "Invalid alias command selected"
  orRefuse (some 400) absence (store aliasCommand?)
  onBot Bot.reloadBroadcasters
  return toBroadcasts

def addBroadcast (r : Request) : SiteM Reply := do
  let interval ← r.integerField "interval_seconds"
  let message ← r.field "message"
  let aliasCommand ← r.fieldOr "alias_command" ""
  let enabled ← r.fieldOr "enable_alias" ""
  storeBroadcast interval (if enabled.isEmpty then "" else aliasCommand) none fun aliasCommand => do
    let _ ← Bot.perform (Database.addBroadcast interval message aliasCommand)

def changeBroadcast (r : Request) (id : String) : SiteM Reply := do
  let id ← integer id
  let interval ← r.integerField "interval_seconds"
  let message ← r.field "message"
  let aliasCommand ← r.fieldOr "alias_command" ""
  storeBroadcast interval aliasCommand (some 400) fun aliasCommand =>
    Bot.perform (updateBroadcast id interval message aliasCommand)

def deleteBroadcast (id : String) : SiteM Reply := do
  let id ← integer id
  orRefuse none (some 404) (Bot.perform (removeBroadcast id))
  onBot Bot.reloadBroadcasters
  return toBroadcasts

end StreamBot.Web
