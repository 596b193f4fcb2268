import StreamBot.Bot.Processing
import StreamBot.Live.Template

/-! # Streams that go live, and raids -/

namespace StreamBot.Bot

open Chat (Platform Delivery)

structure LiveStream where
  name : String
  login : String
  id : String
  title : Option String := none
  game : Option String := none
  thumbnailUrl : Option String := none
  deriving Repr, DecidableEq

structure Raid where
  name : String
  id : String
  viewers : Int
  target : String
  deriving Repr, DecidableEq

/-- The announcement of a stream: the row by which it is announced, if there is one.  The users are greeted
anew when the own stream goes live. -/
def goLive (stream : LiveStream) : BotM (Option Database.LiveChannel) := do
  let bot ← get
  if Text.lower stream.login == Text.lower bot.config.channel then
    set { bot with greeted := [] }
  return (← perform Database.getLiveNotificationChannels).find? (·.broadcasterId == stream.id)

def raidMessage (template : String) (raid : Raid) : String :=
  Text.replace (Text.replace template (Chat.placeholder "raider_name") raid.name)
    (Chat.placeholder "raid_viewer_count") (toString raid.viewers)

def beRaided (raid : Raid) (send : Platform → Delivery → BotM Unit) : BotM Unit := do
  match ← perform (Database.getRaidEventActionByTwitchUser raid.id) with
  | none => return ()
  | some action =>
    if let some template := action.chatMessage then
      for platform in Platform.all do
        if platform.features.raidReactions then send platform (.raid (raidMessage template raid))
    if action.shoutout then
      for platform in Platform.all do
        if platform.features.shoutouts then send platform (.shoutout raid.target raid.id)
    if let some name := action.clip then
      match (← perform Database.getSoundboardCommands).find? (·.name == name) with
      | some row => play (clipOf row)
      | none => return ()

/-! ## Events that are acted on once

The streaming platform may deliver an event more than once, and late.  An event that is too old is ignored, and
so is one that was received before.  What was received is remembered for longer than an event can be late.  A
database that is out of order does not keep an event from being acted on.
-/

inductive Happening where
  /-- A stream has gone live.  The names of the broadcaster may be out of date. -/
  | online (id login name : String)
  | raid (raid : Raid)
  deriving Repr, DecidableEq

/-- An event, with the identifier and the time of its message. -/
structure Notice where
  messageId : String
  sentAt : Time.Instant
  happening : Happening

def oldestNotice : Int := 10 * 60

def rememberedMinutes : Int := 60

def Notice.isStale (n : Notice) (now : Time.Instant) : Bool :=
  decide (oldestNotice * 1000000 < now.micros - n.sentAt.micros)

/-- Whether an event is acted on.  If it is, it is remembered. -/
def acknowledge (n : Notice) : BotM Bool := do
  let now := (← get).clock.now
  if n.isStale now then return false
  let _ ← attempt (perform (Database.purgeReceivedTwitchMessages now rememberedMinutes))
  match ← attempt (perform (Database.hasTwitchMessageBeenReceived n.messageId)) with
  | .ok true => return false
  | _ =>
    let _ ← attempt (perform (Database.addOrUpdateReceivedTwitchMessage n.messageId n.sentAt))
    return true

end StreamBot.Bot
