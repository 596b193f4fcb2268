import StreamBot.Web.Clips

/-! # What users can do for themselves

A user who is logged in reads notifications, confirms an address for letters, and proposes clips for the
soundboard.
-/

namespace StreamBot.Web

open Database

/-! ## Notifications -/

/-- The first page: the notifications if there are new ones, else the clips. -/
def dashboard (visitor : Visitor) : SiteM Reply := do
  let rows ← perform (getNotifications visitor.id)
  if rows.any (!·.hasBeenRead) then goTo "/viewer/notifications" else goTo "/viewer/soundboard"

def notificationsPage (frame : List (String × Json)) (visitor : Visitor) : SiteM Reply := do
  let rows ← perform (getNotifications visitor.id)
  return .page "viewer/notifications.html" (framed frame "notifications" [
    ("notifications", Json.ofList (fun row => .obj [
      ("id", .int row.id), ("twitch_user_id", .str row.userId), ("message", .str row.message),
      ("sent_at", .str (row.sentAt.date.iso ++ "+00:00")), ("has_been_read", .bool row.hasBeenRead)])
      rows)])

def withNotification (visitor : Visitor) (id : String) (operation : Int → Operation Unit) : SiteM Reply := do
  let id ← integer id
  match ← perform (getNotification id) with
  | some row =>
    if row.userId ≠ visitor.id then refuse 404 "Notification not found"
    else do
      perform (operation id)
      return .done
  | none => refuse 404 "Notification not found"

/-! ## The profile -/

inductive ProfileMessage where
  | verificationSent
  | verified
  | deleted
  | updated
  | error
  deriving Repr, DecidableEq

namespace ProfileMessage

def all : List ProfileMessage := [.verificationSent, .verified, .deleted, .updated, .error]

def name : ProfileMessage → String
  | .verificationSent => "email_verification_sent"
  | .verified => "email_verified"
  | .deleted => "profile_deleted"
  | .updated => "profile_updated"
  | .error => "error"

def text : ProfileMessage → String
  | .verificationSent =>
    "Please verify your email address. We've sent an email containing a verification link."
  | .verified => "Your email address has been successfully verified!"
  | .deleted => "Profile data has been deleted."
  | .updated => "Profile has been updated successfully."
  | .error => "An error occurred while processing your request."

end ProfileMessage

def toProfile (message : ProfileMessage) : SiteM Reply := goTo ("/viewer/profile?message=" ++ message.name)

def Request.profileMessage? (r : Request) : SiteM (Option ProfileMessage) := do
  match Dict.get? r.query "message" with
  | none => return none
  | some name =>
    match ProfileMessage.all.find? (·.name == name) with
    | some message => return some message
    | none => throw .unprocessable

def profilePage (frame : List (String × Json)) (visitor : Visitor) (r : Request) : SiteM Reply := do
  let message ← r.profileMessage?
  let profile ← perform (getUserProfile visitor.id)
  return .page "viewer/profile.html" (framed frame "profile" [
    ("email", Json.ofText? (profile.bind (·.email))),
    ("email_is_verified", .bool (profile.any (·.emailIsVerified))),
    ("message", Json.ofText? (message.map (·.text)))])

/-- The time for which an address can be confirmed, in microseconds. -/
def verificationTime : Int := 24 * 60 * 60 * 1000000

/-- Saves an address, and sends a link there by which it is confirmed. -/
def saveProfile (r : Request) (visitor : Visitor) : SiteM Reply := do
  let email := Text.lower (Text.strip (← r.field "email"))
  let email? := if email.isEmpty then none else some email
  perform (upsertUserProfile visitor.id email?)
  match email? with
  | none => toProfile .updated
  | some email =>
    let token := identifier (← nextIssue)
    let now := (← get).bot.clock.now
    perform (addEmailVerificationToken token visitor.id now)
    let link ← urlFor ("/viewer/verify-email/" ++ token)
    onBot do
      let botName ← Bot.signature
      Bot.sendMail email "Verify Your Email Address" (Mail.verificationText visitor.displayName link botName)
    toProfile .verificationSent

def deleteProfile (visitor : Visitor) : SiteM Reply := do
  perform (deleteUserProfile visitor.id)
  toProfile .deleted

def verifyAddress (token : String) : SiteM Reply := do
  match ← perform (getEmailVerificationToken token) with
  | none => toProfile .error
  | some row =>
    let age := (← get).bot.clock.now.micros - row.createdAt.micros
    if verificationTime < age then
      perform (deleteEmailVerificationToken token)
      toProfile .error
    else
      let result ← attempt do
        Bot.perform (markEmailAsVerified row.userId)
        Bot.perform (deleteEmailVerificationToken token)
      match result with
      | .ok _ => toProfile .verified
      | .error fault => if fault.isAbsence then toProfile .error else throw (.fault fault)

/-! ## Clips -/

/-- How many clips may wait for approval: in all, and of one user. -/
structure ClipLimits where
  total : Int
  perUser : Int
  deriving Repr, DecidableEq

def limitOf (value : Option String) : SiteM Int := do
  let complaint := "Soundboard configuration is invalid. Please contact the administrator."
  match value with
  | none => refuse 500 complaint
  | some text =>
    match ← positive? text with
    | some n => return n
    | none => refuse 500 complaint

def clipLimits : SiteM ClipLimits := do
  let total ← setting? .maxPendingClips
  let perUser ← setting? .maxPendingClipsPerUser
  return ⟨← limitOf total, ← limitOf perUser⟩

def toOwnClips : SiteM Reply := goTo "/viewer/soundboard"

def ownClipsPage (frame : List (String × Json)) (visitor : Visitor) : SiteM Reply := do
  let limits ← clipLimits
  let total ← perform getNumberOfPendingSoundboardClips
  let rows ← perform (getPendingSoundboardClipsByTwitchUserId visitor.id)
  return .page "viewer/soundboard.html" (framed frame "soundboard" [
    ("max_pending_clips", .int limits.total), ("max_pending_clips_per_user", .int limits.perUser),
    ("total_pending_clips", .int total), ("user_pending_clips_count", .int rows.length),
    ("user_can_upload", .bool (total < limits.total && rows.length < limits.perUser)),
    ("pending_clips", pendingRows rows)])

structure Proposal where
  entered : String
  file : Upload
  agreed : Bool
  mayPersistUploader : Bool

def Request.proposal (r : Request) : SiteM Proposal := do
  let entered ← r.field "command_name"
  let file ← r.file "file"
  let agreed ← r.field "agree_terms"
  let mayPersist ← r.fieldOr "may_persist_uploader_info" "off"
  return ⟨entered, file, agreed == "on", mayPersist == "on"⟩

/-- Whether a clip can be proposed at all, which is looked at before its file is read: the name of its
command. -/
def admitProposal (visitor : Visitor) (p : Proposal) : SiteM String := do
  if !p.agreed then return ← refuse 400 "You must agree to the terms before uploading a clip"
  let limits ← clipLimits
  if limits.total ≤ (← perform getNumberOfPendingSoundboardClips) then
    return ← refuse 400
      s!"Maximum number of pending clips ({limits.total}) reached. Please try again later."
  let own ← perform (getPendingSoundboardClipsByTwitchUserId visitor.id)
  if limits.perUser ≤ own.length then
    return ← refuse 400 s!"You have reached your limit of {limits.perUser} pending clips."
  let name ← requireName p.entered
  if p.file.filename.isEmpty then return ← refuse 400 "No file uploaded"
  return name

/-- Keeps the file of a proposal, once it has been read, and stores the proposal. -/
def storeProposal (visitor : Visitor) (p : Proposal) (name : String) : SiteM Unit := do
  let kind ← audioKind p.file
  keepFileFor kind fun filename => Bot.perform (addPendingSoundboardClip name filename
    visitor.id visitor.login visitor.displayName p.mayPersistUploader)

def announceProposal (visitor : Visitor) (name : String) : SiteM Unit := do
  match (← setting? .broadcasterEmail).filter (!·.isEmpty) with
  | none => return ()
  | some address =>
    let page ← urlFor "/admin/pending-clips"
    onBot do
      let channel := (← get).config.channel
      let botName ← Bot.signature
      Bot.sendMail address "New Soundboard Clip Upload"
        (Mail.newClipText channel visitor.displayName visitor.id name page botName)

def uploadOwnClip (r : Request) (visitor : Visitor) : SiteM Reply := do
  let proposal ← r.proposal
  let name ← admitProposal visitor proposal
  storeProposal visitor proposal name
  announceProposal visitor name
  toOwnClips

def requireOwnClip (visitor : Visitor) (id : Int) : SiteM Unit := do
  let rows ← perform (getPendingSoundboardClipsByTwitchUserId visitor.id)
  if !rows.any (·.id == id) then refuse 404 "Clip not found or access denied"

def changeOwnClip (r : Request) (visitor : Visitor) (id : String) : SiteM Reply := do
  let id ← integer id
  let entered ← r.field "command_name"
  let mayPersist ← r.fieldOr "may_persist_uploader_info" "off"
  requireOwnClip visitor id
  let name ← requireName entered
  orRefuse none (some 404)
    (Bot.perform (updatePendingSoundboardClip id name (mayPersist == "on")))
  toOwnClips

def deleteOwnClip (visitor : Visitor) (id : String) : SiteM Reply := do
  let id ← integer id
  requireOwnClip visitor id
  orRefuse none (some 404) (Bot.perform (removePendingSoundboardClip id))
  toOwnClips

end StreamBot.Web
