import StreamBot.Chat.Message
import StreamBot.Dict
import StreamBot.Time.Calendar

/-! # The tables

The rows of each table, in the order in which they were added.
-/

namespace StreamBot

namespace Database

inductive SettingKind where
  | botName
  | authorName
  | timezone
  | locale
  | maxPendingClips
  | maxPendingClipsPerUser
  | broadcasterEmail
  | scriptTimeout
  deriving Repr, DecidableEq

namespace SettingKind

def all : List SettingKind := [
  .botName, .authorName, .timezone, .locale, .maxPendingClips, .maxPendingClipsPerUser,
  .broadcasterEmail, .scriptTimeout]

def text : SettingKind → String
  | .botName => "bot_name"
  | .authorName => "author_name"
  | .timezone => "timezone"
  | .locale => "locale"
  | .maxPendingClips => "max_pending_soundboard_clips"
  | .maxPendingClipsPerUser => "max_pending_soundboard_clips_per_user"
  | .broadcasterEmail => "broadcaster_email_address"
  | .scriptTimeout => "script_execution_timeout"

def ofText? (s : String) : Option SettingKind := all.find? (·.text == s)

end SettingKind

structure StaticCommand where
  name : String
  response : String
  deriving Repr, DecidableEq

structure ParameterizedCommand where
  name : String
  response : String
  deriving Repr, DecidableEq

structure Parameter where
  command : String
  name : String
  deriving Repr, DecidableEq

structure Uploader where
  id : Option String
  login : Option String
  displayName : Option String
  deriving Repr, DecidableEq

def Uploader.nobody : Uploader := ⟨none, none, none⟩

structure SoundboardCommand where
  name : String
  filename : String
  volume : Float := 1.0
  uploader : Uploader := .nobody
  deriving Repr

structure Broadcast where
  id : Int
  intervalSeconds : Int
  message : String
  aliasCommand : Option String
  deriving Repr, DecidableEq

structure Constant where
  name : String
  text : String
  deriving Repr, DecidableEq

structure DictionaryEntry where
  word : String
  explanation : String
  deriving Repr, DecidableEq

structure Translation where
  key : Chat.TranslationKey
  value : String
  deriving Repr, DecidableEq

structure StoredScript where
  command : String
  sourceCode : String
  json : String
  deriving Repr, DecidableEq

/-- A store of a script: its definition and its value, both as JSON. -/
structure ScriptStore where
  script : String
  name : String
  definitionJson : String
  valueJson : String
  deriving Repr, DecidableEq

structure TokenSet where
  id : Int
  userId : String
  accessToken : String
  refreshToken : String
  /-- The seconds from the beginning of 1970 until the access token expires. -/
  expiresAt : Int
  deriving Repr, DecidableEq

structure LiveChannel where
  id : Int
  broadcasterId : String
  textTemplate : String
  targetChannel : String
  deriving Repr, DecidableEq

structure PendingClip where
  id : Int
  name : String
  filename : String
  uploaderId : String
  uploaderLogin : String
  uploaderDisplayName : String
  mayPersistUploader : Bool
  deriving Repr, DecidableEq

structure EntranceSound where
  userId : String
  filename : String
  deriving Repr, DecidableEq

structure CachedSource where
  url : String
  sourceCode : String
  deriving Repr, DecidableEq

structure ReceivedMessage where
  messageId : String
  timestamp : Time.Instant
  deriving Repr, DecidableEq

structure UserProfile where
  userId : String
  email : Option String
  emailIsVerified : Bool := false
  deriving Repr, DecidableEq

/-- A token by which a user shows that an address is theirs. -/
structure VerificationToken where
  token : String
  userId : String
  createdAt : Time.Instant
  deriving Repr, DecidableEq

structure Notification where
  id : Int
  userId : String
  message : String
  sentAt : Time.Instant
  hasBeenRead : Bool
  deriving Repr, DecidableEq

structure RaidAction where
  id : Int
  /-- The user; none stands for all users without an action of their own. -/
  userId : Option String
  chatMessage : Option String
  clip : Option String
  shoutout : Bool
  deriving Repr, DecidableEq

end Database

open Database in
structure Database where
  settings : Dict SettingKind String := []
  staticCommands : List StaticCommand := []
  parameterizedCommands : List ParameterizedCommand := []
  parameters : List Parameter := []
  soundboard : List SoundboardCommand := []
  broadcasts : List Broadcast := []
  constants : List Constant := []
  dictionary : List DictionaryEntry := []
  translations : List Translation := []
  scripts : List StoredScript := []
  scriptStores : List ScriptStore := []
  tokenSets : List TokenSet := []
  liveChannels : List LiveChannel := []
  pendingClips : List PendingClip := []
  entranceSounds : List EntranceSound := []
  cachedSources : List CachedSource := []
  receivedMessages : List ReceivedMessage := []
  profiles : List UserProfile := []
  verificationTokens : List VerificationToken := []
  notifications : List Notification := []
  raidActions : List RaidAction := []
  deriving Repr

end StreamBot
