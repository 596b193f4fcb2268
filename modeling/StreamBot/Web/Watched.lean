import StreamBot.Web.MainPage
import StreamBot.Web.Settings

/-! # Streams that are announced, and raids -/

namespace StreamBot.Web

open Database

/-! ## Streams that are announced -/

def toWatched : SiteM Reply := goTo "/admin/live-notifications"

def watchedChanged : SiteM Unit :=
  modify fun site => { site with bot := { site.bot with watchedChanged := true } }

/-- Asks the chat server for the channels in which streams can be announced; none if it does not answer. -/
def textChannels? : SiteM (Option (List String)) := do
  modify fun site => { site with bot := { site.bot with
    requests := site.bot.requests ++ [.textChannels] } }
  let site ← get
  return if site.channelsAnswered then some (site.bot.services.writableChannels.map (·.1)) else none

def watchedPage (frame : List (String × Json)) : SiteM Reply := do
  let rows ← perform getLiveNotificationChannels
  let users ← usersWithIds (rows.map (·.broadcasterId))
  let channels ← rows.mapM fun row => do
    let user ← userIn users row.broadcasterId
    return (user.displayName, Json.obj [
      ("notification_channel_id", .int row.id), ("broadcaster_name", .str user.displayName),
      ("broadcaster_id", .str row.broadcasterId),
      ("broadcaster_profile_image_url", .str user.imageUrl),
      ("broadcaster_twitch_url", .str (channelUrl user.login)),
      ("text_template", .str row.textTemplate), ("target_channel", .str row.targetChannel)])
  let textChannels ← textChannels?
  return .page "admin/live_notifications.html" (framed frame "live_notifications" [
    ("channels", inOrder channels), ("discord_text_channels", Json.ofOption Json.ofTexts textChannels)])

def addWatched (r : Request) : SiteM Reply := do
  let name := Text.lower (← r.field "broadcaster_name")
  let template ← r.field "text_template"
  let target ← r.field "target_channel"
  match Dict.get? (← usersWithLogins [name]) name with
  | none => refuse 400 "Broadcaster not found"
  | some user =>
    orRefuse (some 400) none (Bot.perform (addLiveNotificationChannel user.id template target))
    watchedChanged
    toWatched

def changeWatched (r : Request) (id : String) : SiteM Reply := do
  let id ← integer id
  let template ← r.field "text_template"
  let target ← r.field "target_channel"
  orRefuse none (some 404) (Bot.perform (updateLiveNotificationChannel id template target))
  watchedChanged
  toWatched

def deleteWatched (id : String) : SiteM Reply := do
  let id ← integer id
  match (← perform getLiveNotificationChannels).find? (·.id == id) with
  | none => refuse 404 "Channel not found"
  | some row =>
    orRefuse none (some 404) (Bot.perform (removeLiveNotificationChannel row.broadcasterId))
    watchedChanged
    toWatched

/-! ## Raids -/

/-- Back to the page with the reactions to raids. -/
def toRaidActions : SiteM Reply := goTo "/admin/event-actions"

/-- The page with the reactions to raids.  The one for everybody comes first. -/
def raidActionsPage (frame : List (String × Json)) : SiteM Reply := do
  let rows ← perform getRaidEventActions
  let users ← usersWithIds (rows.filterMap (·.userId))
  let actions ← rows.mapM fun row => do
    let user ← row.userId.mapM (userIn users)
    let key := match user with
      | some user => "1" ++ user.displayName
      | none => "0"
    return (key, Json.obj [
      ("id", .int row.id),
      ("twitch_user_info", Json.ofOption (fun user => .obj [
        ("twitch_user_id", Json.ofText? row.userId), ("twitch_user_login", .str user.login),
        ("twitch_display_name", .str user.displayName),
        ("twitch_profile_image_url", .str user.imageUrl),
        ("twitch_url", .str (channelUrl user.login))]) user),
      ("chat_message_to_send", Json.ofText? row.chatMessage),
      ("soundboard_clip_to_play", Json.ofText? row.clip), ("should_shoutout", .bool row.shoutout)])
  let clips := (← perform getSoundboardCommands).map fun c => "!" ++ c.name
  return .page "admin/event_actions.html" (framed frame "event_actions" [
    ("raid_event_actions", inOrder actions),
    ("soundboard_commands", Json.ofTexts (clips.mergeSort (· ≤ ·))),
    ("has_general_entry", .bool (rows.any (·.userId.isNone)))])

structure Reaction where
  message : Option String
  clip : Option String
  shoutout : Bool
  deriving Repr, DecidableEq

/-- A text that is not blank, without blanks around it. -/
def someText? (text : String) : Option String :=
  let text := Text.strip text
  if text.isEmpty then none else some text

def Request.reactionFields (r : Request) : SiteM Reaction := do
  let message ← r.fieldOr "chat_message" ""
  let clip ← r.fieldOr "soundboard_clip" ""
  let shoutout ← r.fieldOr "should_shoutout" ""
  let clip := Text.dropPrefix (Text.strip clip) "!"
  return ⟨someText? message, if clip.isEmpty then none else some clip, shoutout == "on"⟩

def Reaction.require (a : Reaction) : SiteM Unit := do
  if a.message.isNone ∧ a.clip.isNone ∧ ¬ a.shoutout then
    refuse 400 "At least one action must be specified (chat message, soundboard clip, or shoutout)"

def raidUser (row : RaidAction) : RaidUser :=
  match row.userId with
  | some id => .user id
  | none => .all

def addRaidAction (r : Request) : SiteM Reply := do
  let kind ← r.field "entry_type"
  if kind ≠ "general" ∧ kind ≠ "specific" then throw .unprocessable
  let userId ← r.fieldOr "twitch_user_id" ""
  let reaction ← r.reactionFields
  let user : RaidUser ← if kind = "general" then do
      if (← perform getGeneralRaidEventAction).isSome then
        refuse 400 "A general raid action already exists"
      else pure .all
    else match someText? userId with
      | some id => pure (.user id)
      | none => refuse 400 "Twitch user ID is required for specific entries"
  reaction.require
  orRefuse (some 400) none (Bot.perform
    (addRaidEventAction user reaction.message reaction.clip reaction.shoutout))
  toRaidActions

/-- The reaction with a number, which must be there. -/
def requireRaidAction (id : Int) : SiteM RaidAction := do
  match ← perform (getRaidEventActionById id) with
  | some row => return row
  | none => refuse 404 "Event action not found"

def changeRaidAction (r : Request) (id : String) : SiteM Reply := do
  let id ← integer id
  let reaction ← r.reactionFields
  let row ← requireRaidAction id
  reaction.require
  orRefuse (some 400) (some 400) (Bot.perform
    (updateRaidEventAction (raidUser row) reaction.message reaction.clip reaction.shoutout))
  toRaidActions

def deleteRaidAction (id : String) : SiteM Reply := do
  let row ← requireRaidAction (← integer id)
  orRefuse none (some 404) (Bot.perform (deleteRaidEventAction (raidUser row)))
  toRaidActions

end StreamBot.Web
