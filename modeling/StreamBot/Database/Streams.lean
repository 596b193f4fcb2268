import StreamBot.Database.Users

/-! # What is stored about streams

Channels whose streams are announced, events that were received, and what raids set off.
-/

namespace StreamBot.Database

/-! ### Announced channels -/

def addLiveNotificationChannel (broadcasterId textTemplate targetChannel : String) :
    Operation Unit where
  name := "add_live_notification_channel"
  action := do
    let found ← only? (·.broadcasterId == broadcasterId) (← get).liveChannels
    refuseExisting (.liveChannelOf broadcasterId) found
    modify fun db => { db with
      liveChannels := db.liveChannels ++
        [⟨nextId (·.id) db.liveChannels, broadcasterId, textTemplate, targetChannel⟩] }

def getLiveNotificationChannels : Operation (List LiveChannel) where
  name := "get_live_notification_channels"
  action := return (← get).liveChannels

def updateLiveNotificationChannel (id : Int) (textTemplate targetChannel : String) :
    Operation Unit where
  name := "update_live_notification_channel"
  action := do
    let _ ← requireFound (.liveChannel id) ((← get).liveChannels.find? (·.id == id))
    modify fun db => { db with
      liveChannels := change (·.id == id)
        (fun row => { row with textTemplate, targetChannel }) db.liveChannels }

def removeLiveNotificationChannel (broadcasterId : String) : Operation Unit where
  name := "remove_live_notification_channel"
  action := do
    let found ← only? (·.broadcasterId == broadcasterId) (← get).liveChannels
    let _ ← requireFound (.liveChannelFor broadcasterId) found
    modify fun db => { db with
      liveChannels := db.liveChannels.filter (·.broadcasterId != broadcasterId) }

/-! ### Received events -/

def addOrUpdateReceivedTwitchMessage (messageId : String) (timestamp : Time.Instant) :
    Operation Unit where
  name := "add_or_update_received_twitch_message"
  action := modify fun db =>
    if db.receivedMessages.any (·.messageId == messageId) then
      { db with receivedMessages :=
          change (·.messageId == messageId) (fun row => { row with timestamp }) db.receivedMessages }
    else { db with receivedMessages := db.receivedMessages ++ [⟨messageId, timestamp⟩] }

def purgeReceivedTwitchMessages (now : Time.Instant) (expiryMinutes : Int) : Operation Unit where
  name := "purge_received_twitch_messages"
  action := modify fun db => { db with
    receivedMessages := db.receivedMessages.filter fun row =>
      !decide (row.timestamp.micros < (minutesAgo now expiryMinutes).micros) }

def hasTwitchMessageBeenReceived (messageId : String) : Operation Bool where
  name := "has_twitch_message_been_received"
  action := return (← get).receivedMessages.any (·.messageId == messageId)

/-! ### Raids -/

def clipExists (db : Database) (clip : Option String) : Bool :=
  clip.all fun name => db.soundboard.any (·.name == name)

def addRaidEventAction (user : RaidUser) (chatMessage clip : Option String) (shoutout : Bool) :
    Operation Unit where
  name := "add_raid_event_action"
  action := do
    let db ← get
    if (user.column.isSome && db.raidActions.any (·.userId == user.column)) || !clipExists db clip then
      throw .constraint
    let row : RaidAction :=
      ⟨nextId (·.id) db.raidActions, user.column, chatMessage, clip, shoutout⟩
    set { db with raidActions := db.raidActions ++ [row] }

def getRaidEventActions : Operation (List RaidAction) where
  name := "get_raid_event_actions"
  action := return (← get).raidActions

def getGeneralRaidEventAction : Operation (Option RaidAction) where
  name := "get_general_raid_event_action"
  action := do only? (·.userId.isNone) (← get).raidActions

def getRaidEventActionById (id : Int) : Operation (Option RaidAction) where
  name := "get_raid_event_action_by_id"
  action := return (← get).raidActions.find? (·.id == id)

def getRaidEventActionByTwitchUser (userId : String) : Operation (Option RaidAction) where
  name := "get_raid_event_action_by_twitch_user"
  action := do
    let db ← get
    match ← only? (·.userId == some userId) db.raidActions with
    | some row => return some row
    | none => only? (·.userId.isNone) db.raidActions

def updateRaidEventAction (user : RaidUser) (chatMessage clip : Option String) (shoutout : Bool) :
    Operation Unit where
  name := "update_raid_event_action"
  action := do
    let db ← get
    let row ← only? (·.userId == user.column) db.raidActions
    let row ← requireFound (.raidAction user) row
    if !clipExists db clip then throw .constraint
    set { db with
      raidActions := change (·.id == row.id)
        (fun row => { row with chatMessage, clip, shoutout }) db.raidActions }

def deleteRaidEventAction (user : RaidUser) : Operation Unit where
  name := "delete_raid_event_action"
  action := do
    let db ← get
    let row ← only? (·.userId == user.column) db.raidActions
    let row ← requireFound (.raidAction user) row
    set { db with raidActions := db.raidActions.filter (·.id != row.id) }

end StreamBot.Database
