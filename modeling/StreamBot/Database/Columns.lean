import StreamBot.Database.Tables
import StreamBot.Json.Basic

/-! # Rows as JSON

A row is an object with its columns.
-/

namespace StreamBot.Database

def StaticCommand.toJson (r : StaticCommand) : Json :=
  .obj [("name", .str r.name), ("response", .str r.response)]

def ParameterizedCommand.toJson (r : ParameterizedCommand) : Json :=
  .obj [("name", .str r.name), ("response", .str r.response)]

def ParameterizedCommand.withParameters (r : ParameterizedCommand × List String) : Json :=
  .obj [("name", .str r.1.name), ("response", .str r.1.response), ("parameters", Json.ofTexts r.2)]

def SoundboardCommand.toJson (r : SoundboardCommand) : Json := .obj [
  ("name", .str r.name), ("filename", .str r.filename), ("volume", .float r.volume),
  ("uploader_twitch_id", Json.ofText? r.uploader.id),
  ("uploader_twitch_login", Json.ofText? r.uploader.login),
  ("uploader_twitch_display_name", Json.ofText? r.uploader.displayName)]

def Broadcast.toJson (r : Broadcast) : Json := .obj [
  ("id", .int r.id), ("interval_seconds", .int r.intervalSeconds), ("message", .str r.message),
  ("alias_command", Json.ofText? r.aliasCommand)]

def Constant.toJson (r : Constant) : Json := .obj [("name", .str r.name), ("text", .str r.text)]

def DictionaryEntry.toJson (r : DictionaryEntry) : Json :=
  .obj [("word", .str r.word), ("explanation", .str r.explanation)]

def Translation.toJson (r : Translation) : Json :=
  .obj [("key", .str r.key.text), ("value", .str r.value)]

def StoredScript.toJson (r : StoredScript) : Json := .obj [
  ("command", .str r.command), ("source_code", .str r.sourceCode), ("script_json", .str r.json)]

def ScriptStore.toJson (r : ScriptStore) : Json := .obj [
  ("script_command", .str r.script), ("store_name", .str r.name),
  ("store_json", .str r.definitionJson), ("value_json", .str r.valueJson)]

def TokenSet.toJson (r : TokenSet) : Json := .obj [
  ("id", .int r.id), ("user_id", .str r.userId), ("access_token", .str r.accessToken),
  ("refresh_token", .str r.refreshToken), ("expires_at", .int r.expiresAt)]

def LiveChannel.toJson (r : LiveChannel) : Json := .obj [
  ("id", .int r.id), ("broadcaster_id", .str r.broadcasterId), ("text_template", .str r.textTemplate),
  ("target_channel", .str r.targetChannel)]

def PendingClip.toJson (r : PendingClip) : Json := .obj [
  ("id", .int r.id), ("name", .str r.name), ("filename", .str r.filename),
  ("uploader_twitch_id", .str r.uploaderId), ("uploader_twitch_login", .str r.uploaderLogin),
  ("uploader_twitch_display_name", .str r.uploaderDisplayName),
  ("may_persist_uploader_info", .bool r.mayPersistUploader)]

def EntranceSound.toJson (r : EntranceSound) : Json :=
  .obj [("twitch_user_id", .str r.userId), ("filename", .str r.filename)]

def UserProfile.toJson (r : UserProfile) : Json := .obj [
  ("twitch_user_id", .str r.userId), ("email", Json.ofText? r.email),
  ("email_is_verified", .bool r.emailIsVerified)]

def VerificationToken.toJson (r : VerificationToken) : Json := .obj [
  ("token", .str r.token), ("twitch_user_id", .str r.userId), ("created_at", .str r.createdAt.date.iso)]

def Notification.toJson (r : Notification) : Json := .obj [
  ("id", .int r.id), ("twitch_user_id", .str r.userId), ("message", .str r.message),
  ("sent_at", .str r.sentAt.date.iso), ("has_been_read", .bool r.hasBeenRead)]

def RaidAction.toJson (r : RaidAction) : Json := .obj [
  ("id", .int r.id), ("twitch_user_id", Json.ofText? r.userId),
  ("chat_message_to_send", Json.ofText? r.chatMessage),
  ("soundboard_clip_to_play", Json.ofText? r.clip), ("should_shoutout", .bool r.shoutout)]

end StreamBot.Database
