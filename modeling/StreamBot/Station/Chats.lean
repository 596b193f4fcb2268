import StreamBot.Bot.Events
import StreamBot.Chat.Outbound
import StreamBot.Live.Subscription

/-! # The station and its chats

The station is the bot at work: it has joined the chats, sends messages again and again, and watches streams.
What is said in the chats and what is to be sent goes through one queue.  Several things go on at once, and
each goes on until it has to wait: for the queue, for an event, or for a time.

The bot speaks in the chat of the streaming platform and on a chat server with channels.
-/

namespace StreamBot

namespace Station

inductive Participant where
  | chat (platform : Chat.Platform)
  | broadcaster (index : Nat)
  deriving Repr, DecidableEq

/-- A message from a chat.  On the chat server it comes from a channel, where it is answered. -/
structure Incoming where
  message : Chat.Message
  channel : Option Service.Channel := none

inductive Item where
  | said (incoming : Incoming)
  | broadcast (text : String)
  | ended

/-- A message that is being answered, with the entrance sound that is due afterwards. -/
structure Conversation where
  incoming : Incoming
  entrance : Option Bot.Entrance
  /-- The time at which it was put off because it takes long. -/
  since : Option Float := none

/-- Puts a message into the queue again and again, unless that has failed. -/
structure Producer where
  index : Nat
  failed : Bool := false
  deriving Repr, DecidableEq

inductive Sleeper where
  | producer (index : Nat)
  /-- The stream that is looked up is not yet known to be live. -/
  | lookup
  deriving Repr, DecidableEq

structure Alarm where
  due : Float
  sleeper : Sleeper

/-- A stream that has gone live and whose details are asked for. -/
structure Lookup where
  stream : Bot.LiveStream
  questions : Nat
  pause : Float

structure Watch where
  board : Live.Switchboard
  notices : List Bot.Notice := []
  lookup : Option Lookup := none
  isOpen : Bool := true

inductive Status where
  | starting
  | running
  | failed (fault : Bot.Fault)
  /-- Something failed while it was running, so that all was stopped. -/
  | collapsed (fault : Bot.Fault)
  | left

end Station

open Station in
structure Station where
  bot : Bot
  status : Status := .starting
  envFile : String := ""
  /-- The bot's identifier in the chat of the streaming platform, once that is open. -/
  chatId : Option String := none
  serverJoined : Bool := false
  /-- The channels of the chat server as they were when it was last asked. -/
  channels : Dict String Service.Channel := []
  /-- Those from whom something may come.  Nobody ever joins them. -/
  active : List Participant := []
  queue : List (Participant × Item) := []
  conversations : List Conversation := []
  producers : List Producer := []
  /-- The messages of the producers, if the bot has read others since. -/
  former : Option (List Chat.Broadcaster) := none
  alarms : List Alarm := []
  watch : Option Watch := none

/-- A computation of the station.  What it has changed stays changed when it fails. -/
abbrev StationM (α : Type) := ExceptT Bot.Fault (StateM Station) α

namespace Station

variable {α : Type}

def attempt (x : BotM α) : StationM (Except Bot.Fault α) := fun s =>
  let (result, bot) := x s.bot
  (.ok result, { s with bot })

def onBot (x : BotM α) : StationM α := do
  match ← attempt x with
  | .ok a => return a
  | .error fault => throw fault

def now (s : Station) : Float := s.bot.clock.monotonic

def post (who : Participant) (item : Item) : StationM Unit :=
  modify fun s => { s with queue := s.queue ++ [(who, item)] }

def sleep (sleeper : Sleeper) (seconds : Float) : StationM Unit :=
  modify fun s => { s with alarms := s.alarms ++ [⟨s.now + seconds, sleeper⟩] }

def isRunning (s : Station) : Bool :=
  match s.status with
  | .running => true
  | _ => false

end Station

end StreamBot

namespace StreamBot.Station

open Chat (Delivery Platform)
open Service (Channel)

/-! ## The chat of the streaming platform -/

/-- The bot has new tokens.  They are kept in the file with the environment variables. -/
def renewTokens (tokens : Config.Tokens) : StationM Unit :=
  modify fun s => { s with
    bot := { s.bot with config := { s.bot.config with credentials := some tokens } }
    envFile := Config.EnvFile.update s.envFile
      [("TWITCH_ACCESS_TOKEN", tokens.access), ("TWITCH_REFRESH_TOKEN", tokens.refresh)] }

/-- The access token with which the bot enters the chat.  If it has none, somebody has to let it in. -/
def accessToken : StationM String := do
  let bot := (← get).bot
  match bot.config.credentials with
  | some tokens => return tokens.access
  | none =>
    onBot (Bot.note (.authenticate none))
    match Dict.get? bot.services.codes "" with
    | some (access, _) => return access
    | none => throw .notAuthenticated

def openChat : StationM Unit := do
  let (token, fresh) ← onBot (Bot.useToken (← accessToken))
  if let some (access, refresh) := fresh then renewTokens ⟨access, refresh⟩
  match ← onBot (Bot.userOf? token) with
  | none => throw .unknownBot
  | some user =>
    onBot (Bot.note .chatStart)
    modify fun s => { s with chatId := some user.id }

/-- Says something in the chat, if that is ready. -/
def say (text : String) : BotM Unit := do
  let bot ← get
  if bot.services.ready then Bot.note (.chatMessage bot.config.channel text)

def isLive : BotM Bool := do
  let login := Text.lower (← get).config.channel
  return Dict.has (← Bot.ask (.streams [login])).streams login

/-- Sends a message to the audience, if there is one. -/
def sayLive (text : String) : BotM Unit := do
  if (← get).services.ready then
    if ← isLive then say text

def joinChannel : BotM Unit := do Bot.note (.chatJoin (← get).config.channel)

/-- What a user may do in the chat: the broadcaster everything. -/
def chatLevel (config : Config) (name : String) (isModerator : Bool) : Chat.PermissionLevel :=
  if name = config.channel then .admin else if isModerator then .moderator else .viewer

/-! ## The chat server -/

def joinServer : StationM Unit := do
  onBot (Bot.note (.serverStart (← get).bot.config.discordToken))
  modify fun s => { s with serverJoined := true }

structure Member where
  isAdmin : Bool := false
  roles : List Int := []
  deriving Repr, DecidableEq

/-- What a user of the chat server may do.  One role makes moderators. -/
def serverLevel (config : Config) (member : Option Member) : Chat.PermissionLevel :=
  match member with
  | none => .viewer
  | some m =>
    if m.isAdmin then .admin
    else if config.discordModeratorRole.any m.roles.contains then .moderator
    else .viewer

/-- Sends responses to a channel.  One that is not accepted is replaced by the reason for it. -/
def respond : Channel → List String → BotM Unit
  | _, [] => return ()
  | channel, text :: texts => do
    let (accepted, channel) := channel.accept
    if accepted then
      Bot.note (.serverMessage channel.name text none)
      respond channel texts
    else
      let (accepted, channel) := channel.accept
      if accepted then
        Bot.note (.serverMessage channel.name ("Unable to send message: " ++ Channel.refusal) none)
      respond channel texts

def refreshChannels : StationM Unit :=
  modify fun s => { s with channels := s.bot.services.writableChannels }

/-- The channel with a name.  The chat server is asked only if it was not known before. -/
def channel? (name : String) : StationM (Option Channel) := do
  if !Dict.has (← get).channels name then refreshChannels
  return Dict.get? (← get).channels name

def streamUrl (stream : Bot.LiveStream) : String := "https://twitch.tv/" ++ stream.login

/-- The address of the preview picture of a stream, made different for each time. -/
def pictureOf (stream : Bot.LiveStream) (now : Time.Instant) : Except Bot.Fault (Option String) :=
  match stream.thumbnailUrl with
  | none => .ok none
  | some address =>
    match Live.pictureUrl? address 1280 720 with
    | some url => .ok (some (url ++ "?t=" ++ toString now.wholeSeconds))
    | none => .error .brokenPictureUrl

/-- The announcement of a stream with its picture and facts about it. -/
def embedOf (stream : Bot.LiveStream) (now : Time.Instant) : Except Bot.Fault Service.Embed := do
  return {
    title := stream.name ++ " is now live on Twitch!"
    url := streamUrl stream
    description := stream.title
    facts := stream.game.toList.map fun game => ("Game", game)
    imageUrl := ← pictureOf stream now }

def announce (row : Database.LiveChannel) (stream : Bot.LiveStream) : StationM Unit := do
  match ← channel? row.targetChannel with
  | none => return ()
  | some channel =>
    let embed ← embedOf stream (← get).bot.clock.now
    let (accepted, channel) := channel.accept
    modify fun s => { s with channels := Dict.set s.channels row.targetChannel channel }
    if accepted then
      onBot (Bot.note (.serverMessage channel.name (Live.announcement row.textTemplate stream.name)
        (some (embed, [⟨"Watch Stream", streamUrl stream⟩]))))

/-! ## All chats -/

def answer (incoming : Incoming) (texts : List String) : BotM Unit :=
  let texts := texts.map incoming.message.platform.prepared
  match incoming.message.platform with
  | .twitch => texts.forM say
  | .discord => respond (incoming.channel.getD ⟨"", true, true, true, 0⟩) texts

/-- Sends something to a chat that can do this.  Shoutouts are made by the bot as a moderator. -/
def transmit (chatId : String) (_ : Platform) : Delivery → BotM Unit
  | .shoutout fromId toId => Bot.note (.shoutout fromId toId chatId)
  | .raid text => say text
  | .response _ | .broadcast _ | .live .. => return ()

end StreamBot.Station
