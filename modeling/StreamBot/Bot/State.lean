import StreamBot.Chat.Broadcaster
import StreamBot.Chat.Dictionary
import StreamBot.Chat.Handler
import StreamBot.Config.Settings
import StreamBot.DataDirectory
import StreamBot.Database.Commands
import StreamBot.Database.Streams
import StreamBot.Database.Texts
import StreamBot.Service.World

/-! # The state of the bot

The bot keeps in memory what it has read from the database: its commands, the messages that it broadcasts,
the words that it explains and its translations.  What it does changes the state, and that stays changed
when it fails.
-/

namespace StreamBot.Bot

/-! ## Why the bot fails -/

/-- How an operation of the database fails that is out of order. -/
inductive OutageKind where
  | value
  | key
  | other (name : String)
  deriving Repr, DecidableEq

structure Outage where
  operation : String
  kind : OutageKind
  text : String
  deriving Repr, DecidableEq

inductive Fault where
  | database (fault : Database.Fault)
  | outage (outage : Outage)
  /-- Two commands have the same name without regard to case. -/
  | duplicateName
  | pattern (fault : Trigger.PatternFault)
  | unreadableScript
  | missingTranslation (key : Chat.TranslationKey)
  | invalidTimeout
  | notInteger (text : String)
  | platformDown
  /-- The streaming platform refuses a token, in a way that has a name. -/
  | tokenRejected (kind : String)
  | noTokens (userId : String)
  | unknownChannel (name : String)
  | unknownUser (id : String)
  | mailServerDown
  /-- A line of a letter's head has more than one line. -/
  | brokenLetterHead
  | noUsage
  | notAuthenticated
  | unknownBot
  /-- The address of a preview picture makes no sense. -/
  | brokenPictureUrl
  /-- A message that is sent again and again could not be sent. -/
  | producerFailed

def Fault.message : Fault → String
  | .database fault => fault.message
  | .outage o => if o.kind = .key then Text.quoted o.text else o.text
  | .duplicateName => ""
  | .pattern fault => fault.message
  | .unreadableScript => ""
  | .missingTranslation key => "Missing translation for key: " ++ key.text
  | .invalidTimeout => "Invalid script timeout configuration - this should never happen"
  | .notInteger text => "invalid literal for int() with base 10: " ++ Text.quoted text
  | .platformDown => "Twitch is down"
  | .tokenRejected _ => "rejected"
  | .noTokens userId => "No token set found for user_id: " ++ userId
  | .unknownChannel name => s!"Channel '{name}' not found"
  | .unknownUser id => Text.quoted id
  | .mailServerDown => "no mail server"
  | .brokenLetterHead => "Header values may not contain linefeed or carriage return characters"
  | .noUsage => "list index out of range"
  | .notAuthenticated => ""
  | .unknownBot => "Could not get bot user ID from Twitch."
  | .brokenPictureUrl => ""
  | .producerFailed => ""

def Fault.isRefusal : Fault → Bool
  | .database (.alreadyExists _) | .database .volumeRange => true
  | .outage o => o.kind = .value
  | .unreadableScript | .missingTranslation _ | .notInteger _ | .noTokens _ | .unknownChannel _
  | .brokenLetterHead => true
  | _ => false

def Fault.isAbsence : Fault → Bool
  | .database (.notFound _) | .unknownUser _ => true
  | .outage o => o.kind = .key
  | _ => false

end StreamBot.Bot

namespace StreamBot

/-! ## The bot -/

namespace Bot

/-- A listener to the soundboard with the clips that it has not yet played. -/
structure Listener where
  id : Nat
  clips : List Soundboard.Clip

/-- What parts of the bot ask of the part that serves the chats. -/
inductive Request where
  | reloadBroadcasters
  | textChannels
  deriving Repr, DecidableEq

end Bot

open StreamBot.Bot in
structure Bot where
  config : Config
  database : Database
  outages : List Outage := []
  clock : Time.Clock
  /-- What is drawn when a random number between zero and one is needed. -/
  chance : Float
  /-- What is drawn when somebody is chosen from a group. -/
  draw : Nat
  files : DataDirectory
  services : Service.World := {}
  journal : List Service.Entry := []
  mail : List Mail.Delivery := []
  handlers : List Chat.Handler := []
  broadcasters : List Chat.Broadcaster := []
  dictionary : Chat.Dictionary := ⟨[], []⟩
  translations : List Database.Translation := []
  giveaway : Chat.Giveaway := {}
  soundboardEnabled : Bool := true
  listeners : List Listener := []
  greeted : List String := []
  requests : List Request := []
  watchedChanged : Bool := false
  shuttingDown : Bool := false
  outbox : List (Chat.Platform × Chat.Delivery) := []
  pausesLeft : Option Nat := none

abbrev BotM (α : Type) := ExceptT Bot.Fault (StateM Bot) α

namespace Bot

variable {α : Type}

def requireWorking (operation : String) : BotM Unit := do
  match (← get).outages.find? (·.operation == operation) with
  | some outage => throw (.outage outage)
  | none => return ()

def perform (o : Database.Operation α) : BotM α := do
  requireWorking o.name
  let bot ← get
  match o.run bot.database with
  | .ok (a, database) => do
    set { bot with database }
    return a
  | .error fault => throw (.database fault)

/-- The result of a computation, or why it failed.  The state is the one after it in both cases. -/
def attempt (x : BotM α) : BotM (Except Fault α) := fun bot =>
  let (result, bot) := x bot
  (.ok result, bot)

/-- A computation, and another one afterwards, even if the first one fails. -/
def andFinally (x : BotM α) (last : BotM Unit) : BotM α := do
  let result ← attempt x
  last
  match result with
  | .ok a => return a
  | .error fault => throw fault

def settingOr (kind : Database.SettingKind) (default : String) : BotM String := do
  requireWorking "retrieve_configuration_setting_or_default"
  return (← perform (Database.retrieveConfigurationSetting kind)).getD default

def translation (key : Chat.TranslationKey) : BotM String := do
  return (((← get).translations.find? (·.key == key)).map (·.value)).getD ""

def constants : BotM (List (String × String)) := do
  return (← perform Database.getConstants).map fun c => (c.name, c.text)

/-- Plays a clip for all listeners, unless the soundboard is switched off. -/
def play (clip : Soundboard.Clip) : BotM Unit :=
  modify fun bot =>
    if bot.soundboardEnabled then
      { bot with listeners := bot.listeners.map fun l => { l with clips := l.clips ++ [clip] } }
    else bot

def deliver (platform : Chat.Platform) (delivery : Chat.Delivery) : BotM Unit :=
  modify fun bot => { bot with outbox := bot.outbox ++ [(platform, delivery)] }

end Bot

end StreamBot
