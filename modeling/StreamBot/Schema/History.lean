import StreamBot.Schema.Change

/-! # The history of the schema

All migrations from the first schema to the one that the bot works with, in order.
-/

namespace StreamBot.Schema

/-! ## The first schema

It has tables for commands, messages, words and the texts of the bot's answers.
-/

def firstKeys : List String := [
  "COMMAND_ALREADY_EXISTS", "COMMAND_TO_UPDATE_NOT_FOUND", "COMMAND_TO_DELETE_NOT_FOUND",
  "BUILTIN_COMMAND_CANNOT_BE_DELETED", "BUILTIN_COMMAND_CANNOT_BE_CHANGED", "COMMAND_ADDED",
  "COMMAND_UPDATED", "COMMAND_REMOVED", "SOUNDBOARD_ENABLED", "SOUNDBOARD_DISABLED",
  "CANNOT_ADD_OR_UPDATE_SOUNDBOARD_COMMAND"]

def firstTexts : List (String × String) := [
  ("COMMAND_ALREADY_EXISTS", "Cannot add command: A command with this name already exists."),
  ("COMMAND_TO_UPDATE_NOT_FOUND", "Cannot update command: The command to update was not found."),
  ("COMMAND_TO_DELETE_NOT_FOUND", "Cannot delete command: The command to delete was not found."),
  ("BUILTIN_COMMAND_CANNOT_BE_DELETED",
    "Cannot delete command: The command is a built-in command and cannot be deleted."),
  ("COMMAND_ADDED", "New command has been added successfully."),
  ("COMMAND_UPDATED", "Command has been updated successfully."),
  ("COMMAND_REMOVED", "Command has been removed successfully."),
  ("SOUNDBOARD_ENABLED", "Soundboard enabled."),
  ("SOUNDBOARD_DISABLED", "Soundboard disabled."),
  ("CANNOT_ADD_OR_UPDATE_SOUNDBOARD_COMMAND",
    "You cannot add or update a soundboard command this way. " ++
      "Use `remove` and `add-clip` as subcommands instead."),
  ("BUILTIN_COMMAND_CANNOT_BE_CHANGED",
    "Cannot add or update command: The command is a built-in command and cannot be changed.")]

def firstTables : List Change := [
  .createTable "broadcast" [column "id" .integer, column "interval_seconds" .integer, text "message",
    optionalText "alias_command", primaryKey "broadcast" ["id"]],
  .createTable "constant" [text "name", text "text", primaryKey "constant" ["name"]],
  .createTable "dictionaryentry" [text "word", text "explanation", primaryKey "dictionaryentry" ["word"]],
  .createTable "parameterizedcommand" [text "name", text "response",
    primaryKey "parameterizedcommand" ["name"]],
  .createIndex "ix_parameterizedcommand_name" "parameterizedcommand" ["name"],
  .createTable "soundboardcommand" [text "name", text "clip_url", primaryKey "soundboardcommand" ["name"]],
  .createTable "staticcommand" [text "name", text "response", primaryKey "staticcommand" ["name"]],
  .createTable "translation" [column "key" (.oneOf firstKeys), text "value",
    primaryKey "translation" ["key"]],
  .createTable "parameter" [text "command_name", text "name",
    .constraint (.foreignKey "fk_parameter_command_name_parameterizedcommand" ["command_name"]
      ["parameterizedcommand.name"] none (some "CASCADE")),
    primaryKey "parameter" ["command_name", "name"]]]

def baseline : Migration where
  revision := "90615bd027fd"
  previous := none
  upgrade _ := firstTables ++ firstTexts.map fun (key, value) => keyValue "translation" key value
  downgrade := [
    .dropTable "parameter", .dropTable "translation", .dropTable "staticcommand",
    .dropTable "soundboardcommand", .dropIndex "ix_parameterizedcommand_name" "parameterizedcommand",
    .dropTable "parameterizedcommand", .dropTable "dictionaryentry", .dropTable "constant",
    .dropTable "broadcast"]

/-! ## The migrations -/

def creating (revision previous : String) (tables : List (String × List Part)) : Migration where
  revision
  previous := some previous
  upgrade _ := tables.map fun (name, parts) => .createTable name parts
  downgrade := tables.reverse.map fun (name, _) => .dropTable name

def changingNothing (revision previous : String) : Migration where
  revision
  previous := some previous
  upgrade _ := []
  downgrade := []

def addingAnswer (revision previous key value : String) : Migration where
  revision
  previous := some previous
  upgrade := insertMissing "translation" key value
  downgrade := [deleteKey "translation" key]

def scriptTables : Migration := creating "c96656cce2d6" "90615bd027fd" [
  ("script", [text "command", text "source_code", text "script_json", primaryKey "script" ["command"]]),
  ("scriptstore", [text "script_command", text "store_name", text "store_json", text "value_json",
    .constraint (.foreignKey "fk_scriptstore_script_command_script" ["script_command"]
      ["script.command"] none (some "CASCADE")),
    primaryKey "scriptstore" ["script_command", "store_name"]])]

def scriptKey : String := "CANNOT_ADD_OR_UPDATE_SCRIPT_COMMAND"

/-- An answer about scripts, whose key was not allowed before. -/
def scriptAnswer : Migration where
  revision := "584e818241dd"
  previous := some "c96656cce2d6"
  upgrade _ := [
    .alterTable "translation" false [] [.values "key" firstKeys (firstKeys ++ [scriptKey])],
    keyValue "translation" scriptKey
      ("You cannot add or update a script command this way. Use `remove` and " ++
        "`add-script` as subcommands instead.")]
  downgrade := [
    deleteKey "translation" scriptKey,
    .alterTable "translation" false [] [.values "key" (firstKeys ++ [scriptKey]) firstKeys]]

def tokenTable : Migration := creating "61fd0edcab58" "584e818241dd" [
  ("twitchtokenset", [column "id" .integer, text "user_id", text "access_token", text "refresh_token",
    column "expires_at" .integer, primaryKey "twitchtokenset" ["id"]])]

def liveChannelTable : Migration := creating "1134d0b4c803" "61fd0edcab58" [
  ("livenotificationchannel", [column "id" .integer, text "broadcaster", text "text_template",
    text "target_channel", primaryKey "livenotificationchannel" ["id"]])]

def broadcasterColumns : Migration where
  revision := "8fac49eb043c"
  previous := some "1134d0b4c803"
  upgrade _ := [
    .addColumn "livenotificationchannel" { name := "broadcaster_name", type := .string },
    .addColumn "livenotificationchannel" { name := "broadcaster_id", type := .string },
    .dropColumn "livenotificationchannel" "broadcaster"]
  downgrade := [
    .addColumn "livenotificationchannel" { name := "broadcaster", type := .varchar },
    .dropColumn "livenotificationchannel" "broadcaster_id",
    .dropColumn "livenotificationchannel" "broadcaster_name"]

def settingTable : Migration := creating "6a0fbce552ad" "8fac49eb043c" [
  ("configurationsetting", [text "key", text "value", primaryKey "configurationsetting" ["key"]])]

def filenameOf (address : String) : String :=
  let last := (Text.splitOn address "/").getLast?.getD ""
  (Text.splitOn last "?").headD ""

def setFilename : Json → Change
  | .arr (name :: address :: _) =>
    .statement "UPDATE soundboardcommand SET clip_url = :filename WHERE name = :name"
      [("filename", .str (filenameOf (address.text?.getD ""))), ("name", name)]
  | _ => .statement "" []

def clipFilenames : Migration where
  revision := "813b0a6fbf32"
  previous := some "6a0fbce552ad"
  upgrade rows :=
    [statement "SELECT name, clip_url FROM soundboardcommand"] ++
    (rows.found "soundboardcommand").map setFilename ++
    [.alterTable "soundboardcommand" false [] [.rename "clip_url" "filename"]]
  downgrade := [.alterTable "soundboardcommand" false [] [.rename "filename" "clip_url"]]

def soundboardAnswer : Migration := addingAnswer "153518e030e6" "813b0a6fbf32"
  "SOUNDBOARD_MANAGED_VIA_WEB_UI" "Soundboard clips are managed exclusively via the web UI."

/-- Clips that users propose, and who proposed the clips of the soundboard. -/
def proposalTable : Migration where
  revision := "bfd170595873"
  previous := some "153518e030e6"
  upgrade _ := [
    .createTable "pendingsoundboardclip" [column "id" .integer, text "name", text "filename",
      text "uploader_twitch_id", text "uploader_twitch_login", text "uploader_twitch_display_name",
      column "may_persist_uploader_info" .boolean, primaryKey "pendingsoundboardclip" ["id"]],
    .addColumn "soundboardcommand" { name := "uploader_twitch_id", type := .string, nullable := true },
    .addColumn "soundboardcommand" { name := "uploader_twitch_login", type := .string, nullable := true },
    .addColumn "soundboardcommand"
      { name := "uploader_twitch_display_name", type := .string, nullable := true }]
  downgrade := [
    .dropColumn "soundboardcommand" "uploader_twitch_display_name",
    .dropColumn "soundboardcommand" "uploader_twitch_login",
    .dropColumn "soundboardcommand" "uploader_twitch_id",
    .dropTable "pendingsoundboardclip"]

def proposalLimits : Migration where
  revision := "8563357d6e5d"
  previous := some "bfd170595873"
  upgrade rows :=
    insertMissing "configurationsetting" "max_pending_soundboard_clips" "10" rows ++
    insertMissing "configurationsetting" "max_pending_soundboard_clips_per_user" "2" rows
  downgrade := [
    deleteKey "configurationsetting" "max_pending_soundboard_clips",
    deleteKey "configurationsetting" "max_pending_soundboard_clips_per_user"]

def entranceTable : Migration := creating "4209530666cd" "8563357d6e5d" [
  ("entrancesound", [text "twitch_user_id", text "filename", primaryKey "entrancesound" ["twitch_user_id"]])]

def sourceTable : Migration := creating "ef67d17c9d30" "4209530666cd" [
  ("cachedsourcecode", [text "url", text "source_code", primaryKey "cachedsourcecode" ["url"]])]

def scriptTimeLimit : Migration where
  revision := "cc79430df495"
  previous := some "ef67d17c9d30"
  upgrade _ := [keyValue "configurationsetting" "script_execution_timeout" "30"]
  downgrade := []

def receivedTable : Migration where
  revision := "cc340445a4ca"
  previous := some "cc79430df495"
  upgrade _ := [
    .createTable "receivedtwitchmessage" [column "id" .integer, text "message_id",
      column "timestamp" .datetime, primaryKey "receivedtwitchmessage" ["id"]],
    .createIndex "ix_receivedtwitchmessage_message_id" "receivedtwitchmessage" ["message_id"]]
  downgrade := [
    .dropIndex "ix_receivedtwitchmessage_message_id" "receivedtwitchmessage",
    .dropTable "receivedtwitchmessage"]

def receivedKey : Migration where
  revision := "9701b4272c26"
  previous := some "cc340445a4ca"
  upgrade _ := [.alterTable "receivedtwitchmessage" true
    [primaryKey "receivedtwitchmessage" ["message_id"]] [.drop "id"]]
  downgrade := [.alterTable "receivedtwitchmessage" true
    [primaryKey "receivedtwitchmessage" ["id"]] [.add { name := "id", type := .integer }]]

def broadcasterName : Migration where
  revision := "174a7805e616"
  previous := some "9701b4272c26"
  upgrade _ := [.dropColumn "livenotificationchannel" "broadcaster_name"]
  downgrade := [.addColumn "livenotificationchannel"
    { name := "broadcaster_name", type := .varchar, default := some "" }]

def profileTables : Migration := creating "f1c0742a11df" "174a7805e616" [
  ("emailverificationtoken", [text "token", text "twitch_user_id", column "created_at" .datetime,
    primaryKey "emailverificationtoken" ["token"]]),
  ("userprofile", [text "twitch_user_id", optionalText "email", column "email_is_verified" .boolean,
    primaryKey "userprofile" ["twitch_user_id"]])]

def notificationTable : Migration := creating "4ca9a33d065f" "f1c0742a11df" [
  ("notification", [column "id" .integer, text "twitch_user_id", text "message",
    column "sent_at" .datetime, column "has_been_read" .boolean, primaryKey "notification" ["id"]])]

def raidTable : Migration := creating "a9e93c8c6f82" "902cb24ac436" [
  ("raideventaction", [column "id" .integer, optionalText "twitch_user_id",
    optionalText "chat_message_to_send", optionalText "soundboard_clip_to_play",
    column "should_shoutout" .boolean,
    .constraint (.foreignKey "fk_raideventaction_soundboard_clip_to_play_soundboardcommand"
      ["soundboard_clip_to_play"] ["soundboardcommand.name"] (some "CASCADE") (some "SET NULL")),
    primaryKey "raideventaction" ["id"],
    .constraint (.unique "uq_raideventaction_twitch_user_id" ["twitch_user_id"])])]

def clipVolume : Migration where
  revision := "5f9af2cc10f5"
  previous := some "a9e93c8c6f82"
  upgrade _ := [.addColumn "soundboardcommand"
    { name := "volume", type := .float, serverDefault := some "(1.0)" }]
  downgrade := [.dropColumn "soundboardcommand" "volume"]

def ambiguityAnswer : Migration := addingAnswer "51019a3ea980" "5f9af2cc10f5"
  "COMMAND_UPDATE_CAUSES_AMBIGUITY" "Updating this command will cause ambiguity with other commands."

def history : List Migration := [
  baseline, scriptTables, scriptAnswer, tokenTable, liveChannelTable, broadcasterColumns, settingTable,
  clipFilenames, soundboardAnswer, proposalTable, proposalLimits, entranceTable, sourceTable,
  scriptTimeLimit, receivedTable, receivedKey, broadcasterName, profileTables, notificationTable,
  changingNothing "1e250ee04152" "4ca9a33d065f", changingNothing "902cb24ac436" "1e250ee04152",
  raidTable, clipVolume, ambiguityAnswer]

def migration? (revision : String) : Option Migration := history.find? (·.revision == revision)

end StreamBot.Schema
