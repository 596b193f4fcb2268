import StreamBot.Soundboard.AudioKind
import StreamBot.Web.MainPage
import StreamBot.Web.Settings

/-! # Clips and their files

A clip is uploaded as a file and gets a command.  The file is kept under a new name in the directory of the
soundboard.
-/

namespace StreamBot.Web

open Database

/-! ## Files -/

/-- The kind of an uploaded file, which must be one that can be played. -/
def audioKind (upload : Upload) : SiteM Soundboard.AudioKind :=
  match upload.content with
  | .error reason => refuse 500 ("Failed to read file: " ++ reason)
  | .ok bytes =>
    match Soundboard.AudioKind.ofBytes? bytes with
    | some kind => return kind
    | none => refuse 400 "Unsupported file format."

def keepFile (kind : Soundboard.AudioKind) : SiteM String := do
  let filename := hyphenated (← nextIssue) ++ kind.extension
  modify fun site => { site with clipFiles := site.clipFiles ++ [filename] }
  return filename

def deleteFile (filename : String) : SiteM Unit := do
  let name := Text.normalPath filename
  modify fun site => { site with clipFiles := site.clipFiles.filter (· != name) }

/-- Keeps a file for something that is stored in the database.  The file is deleted again if that is
refused. -/
def keepFileFor (kind : Soundboard.AudioKind) (store : String → BotM Unit) : SiteM Unit := do
  let filename ← keepFile kind
  match ← attempt (store filename) with
  | .ok _ => return ()
  | .error fault =>
    if fault.isRefusal then
      deleteFile filename
      refuse 400 fault.message
    else throw (.fault fault)

/-! ## Commands -/

/-- The name of a command as it is entered: blanks around it and exclamation marks in front do not count. -/
def requireName (entered : String) : SiteM String := do
  let name := Text.dropLeading '!' (Text.strip entered)
  if name.isEmpty then return ← refuse 400 "Command name cannot be empty"
  return name

def commandNames : SiteM (List String) := return (← get).bot.handlers.map fun h => Text.lower h.name

def requireNewName (name : String) : SiteM Unit := do
  if (← commandNames).contains (Text.lower name) then
    refuse 400 s!"Command '!{name}' already exists"

def toSoundboard : SiteM Reply := goTo "/admin/soundboard"

def afterChange : SiteM Reply := do
  onBot Bot.reloadHandlers
  toSoundboard

def soundboardPage (frame : List (String × Json)) : SiteM Reply := do
  let rows ← (← perform getSoundboardCommands).mapM fun row => do
    match Trigger.ofName row.name with
    | .error fault => throw (.fault (.pattern fault))
    | .ok pattern =>
      return (row.name, clipRow row.name (Trigger.aliases pattern) (Bot.clipOf row) row.uploader)
  return .page "admin/soundboard.html" (framed frame "soundboard" [
    ("soundboard_commands", inOrder rows), ("existing_commands", Json.ofTexts (← commandNames))])

def uploadClip (r : Request) (visitor : Visitor) : SiteM Reply := do
  let entered ← r.field "command_name"
  let upload ← r.file "file"
  let name ← requireName entered
  requireNewName name
  if upload.filename.isEmpty then return ← refuse 400 "No file uploaded"
  let kind ← audioKind upload
  let uploader : Uploader := ⟨some visitor.id, some visitor.login, some visitor.displayName⟩
  keepFileFor kind fun filename => do
    let _ ← Bot.perform (addSoundboardCommand name filename uploader)
  afterChange

def renameClip (r : Request) (old : String) : SiteM Reply := do
  let entered ← r.field "command_name"
  let name := Text.replace (Text.lower (Text.strip entered)) "!" ""
  if name.isEmpty then return ← refuse 400 "Command name cannot be empty"
  let absence := if Text.lower name == Text.lower old then 400 else 404
  orRefuse (some 400) (some absence) (Bot.perform (updateSoundboardCommandName old name))
  afterChange

/-- The number in a value: a number, a truth value or a text that is a number. -/
def numberIn? : Json → Option Float
  | .bool b => some (if b then 1.0 else 0.0)
  | .str s => Decimal.read? (Text.trim s.toList)
  | j => j.number?

def Request.volume (r : Request) : SiteM Float := do
  match (r.body.bind (·.get? "volume")).bind numberIn? with
  | some x => if x < 0.0 || 1.0 < x then throw .unprocessable else return x
  | none => throw .unprocessable

def changeVolume (r : Request) (name : String) : SiteM Reply := do
  let volume ← r.volume
  orRefuse (some 400) (some 404) (Bot.perform (updateSoundboardCommandVolume name volume))
  onBot Bot.reloadHandlers
  return .done

def deleteClip (name : String) : SiteM Reply := do
  match (← perform getSoundboardCommands).find?
      fun row => Text.lower row.name == Text.lower name with
  | none => refuse 404 "Soundboard command not found"
  | some row =>
    deleteFile row.filename
    if !(← perform (removeCommandCaseInsensitive row.name)) then
      return ← refuse 500 "Failed to delete command from database"
    afterChange

/-! ## Clips that wait for approval -/

def pendingRow (row : PendingClip) : Json := .obj [
  ("id", .int row.id), ("command", .str row.name), ("clip_url", .str (Soundboard.fileUrl row.filename)),
  ("may_persist_uploader_info", .bool row.mayPersistUploader),
  ("uploader_twitch_login", .str row.uploaderLogin),
  ("uploader_twitch_display_name", .str row.uploaderDisplayName)]

def pendingRows (rows : List PendingClip) : Json := inOrder (rows.map fun row => (row.name, pendingRow row))

def toPendingClips : SiteM Reply := goTo "/admin/pending-clips"

def pendingClipsPage (frame : List (String × Json)) : SiteM Reply := do
  let rows ← perform getAllPendingSoundboardClips
  return .page "admin/pending_clips.html" (framed frame "pending_clips" [
    ("pending_clips", pendingRows rows), ("existing_commands", Json.ofTexts (← commandNames))])

def requirePending (id : Int) : SiteM PendingClip := do
  match (← perform getAllPendingSoundboardClips).find? (·.id == id) with
  | some row => return row
  | none => refuse 404 "Pending clip not found"

/-- The uploader of a clip as far as the uploader wants to be known. -/
def uploaderOf (row : PendingClip) : Uploader :=
  if row.mayPersistUploader then
    ⟨some row.uploaderId, some row.uploaderLogin, some row.uploaderDisplayName⟩
  else .nobody

def approveClip (r : Request) (id : String) : SiteM Reply := do
  let id ← integer id
  let entered ← r.field "command_name"
  let row ← requirePending id
  let name ← requireName entered
  requireNewName name
  orRefuse (some 400) none do
    let _ ← Bot.perform (addSoundboardCommand name row.filename (uploaderOf row))
  orRefuse none (some 404) (Bot.perform (removePendingSoundboardClip id))
  onBot Bot.reloadHandlers
  onBot do
    let botName ← Bot.signature
    Bot.notify row.uploaderId (Mail.approvalNotification ("!" ++ row.name) ("!" ++ name))
      "Your soundboard clip has been approved!"
      (Mail.approvalLetter row.uploaderDisplayName ("!" ++ row.name) ("!" ++ name) botName)
  toPendingClips

/-- Tells the uploader that a clip is not wanted, and forgets the clip. -/
def rejectClip (r : Request) (id : String) : SiteM Reply := do
  let id ← integer id
  let reason ← r.fieldOr "reason" ""
  let row ← requirePending id
  let reason := if reason.isEmpty then none else some (Text.strip reason)
  onBot do
    let botName ← Bot.signature
    Bot.notify row.uploaderId (Mail.rejectionNotification ("!" ++ row.name) reason)
      "Your soundboard clip has been rejected"
      (Mail.rejectionLetter row.uploaderDisplayName ("!" ++ row.name) reason botName)
  orRefuse none (some 404) (Bot.perform (removePendingSoundboardClip id))
  toPendingClips

/-! ## Entrance sounds -/

def toEntranceSounds : SiteM Reply := goTo "/admin/entrance-sounds"

def entranceSoundsPage (frame : List (String × Json)) : SiteM Reply := do
  let rows ← perform getAllEntrySounds
  let users ← usersWithIds (rows.map (·.userId))
  let sounds ← rows.mapM fun row => do
    let user ← userIn users row.userId
    return (user.displayName, Json.obj [
      ("twitch_user_id", .str row.userId), ("twitch_display_name", .str user.displayName),
      ("twitch_profile_image_url", .str user.imageUrl), ("twitch_url", .str (channelUrl user.login)),
      ("clip_url", .str (Soundboard.fileUrl row.filename))])
  return .page "admin/entrance_sounds.html" (framed frame "entrance_sounds" [
    ("entrance_sounds", inOrder sounds)])

def findUser (r : Request) : SiteM Reply := do
  let login := Text.lower (← r.queryValue "username")
  let answer := match ← usersWithLogins [login] with
    | [(_, user)] => [
        ("valid", Json.bool true), ("user_id", .str user.id), ("profile_image_url", .str user.imageUrl)]
    | _ => [("valid", .bool false), ("error", .str "User not found")]
  return ⟨200, .data (.obj answer), []⟩

def uploadEntranceSound (r : Request) : SiteM Reply := do
  let userId ← r.field "twitch_user_id"
  let upload ← r.file "file"
  let kind ← audioKind upload
  keepFileFor kind fun filename => Bot.perform (addEntranceSound userId filename)
  toEntranceSounds

def deleteEntranceSound (userId : String) : SiteM Reply := do
  match ← perform (getEntranceSoundByTwitchUserId userId) with
  | none => refuse 400 "Failed to delete entrance sound because it does not exist."
  | some row =>
    deleteFile row.filename
    match ← attempt (Bot.perform (Database.deleteEntranceSound userId)) with
    | .ok _ => toEntranceSounds
    | .error _ => refuse 500 "Failed to delete entrance sound from database"

def resetEntranceSounds : SiteM Reply := do
  modify fun site => { site with bot := { site.bot with greeted := [] } }
  toEntranceSounds

end StreamBot.Web
