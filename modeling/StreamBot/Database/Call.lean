import StreamBot.Database.Columns
import StreamBot.Database.Commands
import StreamBot.Database.Streams
import StreamBot.Database.Texts
import StreamBot.Time.Iso

/-! # Operations by name

For use from outside, each operation has a name, and its arguments and its result are JSON.
-/

namespace StreamBot.Database.Call

open Json

/-- The user in the arguments; anything but a text means all users. -/
def raidUser (a : Json) : RaidUser :=
  match a.getD "twitch_user_id" with
  | .str id => .user id
  | _ => .all

def settingKind (a : Json) : SettingKind :=
  (SettingKind.ofText? (a.textAt "kind")).getD .botName

def translationKey (a : Json) : Chat.TranslationKey :=
  (Chat.TranslationKey.ofText? (a.textAt "key")).getD .commandAdded

def newStore (j : Json) : NewStore :=
  ⟨j.textAt "store_name", j.textAt "store_json", j.textAt "value_json"⟩

def instantAt (a : Json) (name : String) : Time.Instant :=
  (Time.Instant.ofIso? (a.textAt name)).getD ⟨0⟩

def silent {α : Type} (o : Operation α) : Operation Json := o.map fun _ => .null

def texts (a : Json) : List (Operation Json) :=
  let t := a.textAt
  [ silent (storeConfigurationSetting (settingKind a) (t "value")),
    (retrieveConfigurationSetting (settingKind a)).map ofText?,
    (retrieveConfigurationSettingOrRaise (settingKind a)).map .str,
    (addBroadcast (a.intAt "interval_seconds") (t "message") (a.textAt? "alias_command")).map Broadcast.toJson,
    silent (removeBroadcast (a.intAt "id_")),
    silent (updateBroadcast (a.intAt "id_") (a.intAt "interval_seconds") (t "message") (a.textAt? "alias_command")),
    getBroadcasts.map (ofList Broadcast.toJson),
    (addConstant (t "name") (t "text")).map Constant.toJson,
    silent (removeConstant (t "name")),
    getConstants.map (ofList Constant.toJson),
    (addDictionaryEntry (t "word") (t "explanation")).map DictionaryEntry.toJson,
    silent (updateDictionaryEntryCaseInsensitive (t "word") (t "new_explanation")),
    silent (removeDictionaryEntryCaseInsensitive (t "word")),
    (getDictionaryEntryCaseInsensitive (t "word")).map (ofOption DictionaryEntry.toJson),
    getDictionaryEntries.map (ofList DictionaryEntry.toJson),
    (addTranslation (translationKey a) (t "value")).map Translation.toJson,
    silent (removeTranslation (translationKey a)),
    getTranslations.map (ofList Translation.toJson),
    silent (addOrUpdateCachedSourceCode (t "url") (t "source_code")),
    (getCachedSourceCode (t "url")).map ofText?,
    silent (deleteCachedSourceCode (t "url"))]

def commands (a : Json) : List (Operation Json) :=
  let t := a.textAt
  [ (addStaticCommand (t "name") (t "response")).map StaticCommand.toJson,
    silent (removeStaticCommand (t "name")),
    getStaticCommands.map (ofList StaticCommand.toJson),
    (addParameterizedCommand (t "name") (t "response") (a.textsAt "parameters")).map ParameterizedCommand.toJson,
    silent (removeParameterizedCommand (t "name")),
    getParameterizedCommands.map (ofList ParameterizedCommand.withParameters),
    (addSoundboardCommand (t "name") (t "filename") ⟨a.textAt? "uploader_twitch_id",
      a.textAt? "uploader_twitch_login", a.textAt? "uploader_twitch_display_name"⟩).map SoundboardCommand.toJson,
    (removeCommandCaseInsensitive (t "name")).map .bool,
    silent (removeSoundboardCommand (t "name")),
    getSoundboardCommands.map (ofList SoundboardCommand.toJson),
    silent (updateSoundboardCommandName (t "old_name") (t "new_name")),
    silent (updateSoundboardCommandVolume (t "name") (a.numberAt "volume")),
    (addScript (t "command") (t "source_code") (t "script_json") ((a.itemsAt "stores").map newStore)).map
      StoredScript.toJson,
    getScripts.map (ofList StoredScript.toJson),
    (getScript (t "command")).map (ofOption StoredScript.toJson),
    (removeScript (t "command")).map .bool,
    (getScriptStore (t "script_command") (t "store_name")).map (ofOption ScriptStore.toJson),
    silent (updateScriptStoreValue (t "script_command") (t "store_name") (t "value_json"))]

def users (now : Time.Instant) (a : Json) : List (Operation Json) :=
  let t := a.textAt
  [ silent (addOrUpdateTwitchTokenSet (t "user_id") (t "access_token") (t "refresh_token") (a.intAt "expires_at")),
    (getTwitchTokenSet (t "user_id")).map (ofOption TokenSet.toJson),
    silent (deleteTwitchTokenSet (t "user_id")),
    silent (addPendingSoundboardClip (t "name") (t "filename") (t "uploader_twitch_id") (t "uploader_twitch_login")
      (t "uploader_twitch_display_name") (a.boolAt "may_persist_uploader_info")),
    silent (updatePendingSoundboardClip (a.intAt "id_") (t "name") (a.boolAt "may_persist_uploader_info")),
    silent (removePendingSoundboardClip (a.intAt "id_")),
    getNumberOfPendingSoundboardClips.map fun n => .int n,
    getAllPendingSoundboardClips.map (ofList PendingClip.toJson),
    (getPendingSoundboardClipsByTwitchUserId (t "twitch_user_id")).map (ofList PendingClip.toJson),
    silent (addEntranceSound (t "twitch_user_id") (t "filename")),
    getAllEntrySounds.map (ofList EntranceSound.toJson),
    (getEntranceSoundByTwitchUserId (t "twitch_user_id")).map (ofOption EntranceSound.toJson),
    silent (deleteEntranceSound (t "twitch_user_id")),
    silent (upsertUserProfile (t "twitch_user_id") (a.textAt? "email")),
    (getUserProfile (t "twitch_user_id")).map (ofOption UserProfile.toJson),
    silent (deleteUserProfile (t "twitch_user_id")),
    silent (markEmailAsVerified (t "twitch_user_id")),
    silent (addEmailVerificationToken (t "token") (t "twitch_user_id") (instantAt a "created_at")),
    (getEmailVerificationToken (t "token")).map (ofOption VerificationToken.toJson),
    silent (deleteEmailVerificationToken (t "token")),
    silent (purgeExpiredEmailVerificationTokens now (a.intAt "expiry_minutes")),
    silent (addNotification (t "twitch_user_id") (t "message") (instantAt a "sent_at")),
    (getNotification (a.intAt "notification_id")).map (ofOption Notification.toJson),
    (getNotifications (t "twitch_user_id")).map (ofList Notification.toJson),
    silent (markNotificationAsRead (a.intAt "notification_id")),
    silent (markNotificationAsUnread (a.intAt "notification_id")),
    silent (deleteNotification (a.intAt "notification_id"))]

def streams (now : Time.Instant) (a : Json) : List (Operation Json) :=
  let t := a.textAt
  [ silent (addLiveNotificationChannel (t "broadcaster_id") (t "text_template") (t "target_channel")),
    getLiveNotificationChannels.map (ofList LiveChannel.toJson),
    silent (updateLiveNotificationChannel (a.intAt "id_") (t "text_template") (t "target_channel")),
    silent (removeLiveNotificationChannel (t "broadcaster_id")),
    silent (addOrUpdateReceivedTwitchMessage (t "message_id") (instantAt a "timestamp")),
    silent (purgeReceivedTwitchMessages now (a.intAt "expiry_minutes")),
    (hasTwitchMessageBeenReceived (t "message_id")).map .bool,
    silent (addRaidEventAction (raidUser a) (a.textAt? "chat_message_to_send")
      (a.textAt? "soundboard_clip_to_play") (a.boolAt "should_shoutout")),
    getRaidEventActions.map (ofList RaidAction.toJson),
    getGeneralRaidEventAction.map (ofOption RaidAction.toJson),
    (getRaidEventActionById (a.intAt "id_")).map (ofOption RaidAction.toJson),
    (getRaidEventActionByTwitchUser (t "twitch_user_id")).map (ofOption RaidAction.toJson),
    silent (updateRaidEventAction (raidUser a) (a.textAt? "chat_message_to_send")
      (a.textAt? "soundboard_clip_to_play") (a.boolAt "should_shoutout")),
    silent (deleteRaidEventAction (raidUser a))]

/-- The operation with a name and arguments; one with an unknown name does nothing. -/
def operation (now : Time.Instant) (name : String) (a : Json) : Operation Json :=
  if name = "retrieve_configuration_setting_or_default" then
    (retrieveConfigurationSetting (settingKind a)).map fun value => value.elim (a.getD "default") .str
  else ((texts a ++ commands a ++ users now a ++ streams now a).find? (·.name == name)).getD ⟨name, pure .null⟩

end StreamBot.Database.Call
