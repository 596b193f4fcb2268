import StreamBot.Database.Operation

/-! # What is stored about users

Tokens, pending clips, entrance sounds, profiles, verification tokens and notifications.
-/

namespace StreamBot.Database

/-! ### Tokens -/

/-- Stores the tokens of a user.  They replace those in the row whose number the user's identifier is, if
there is such a row, and are a new row otherwise. -/
def addOrUpdateTwitchTokenSet (userId accessToken refreshToken : String) (expiresAt : Int) :
    Operation Unit where
  name := "add_or_update_twitch_token_set"
  action := modify fun db =>
    match db.tokenSets.find? fun row => keyNumber? userId == some row.id with
    | some found => { db with
        tokenSets := change (·.id == found.id)
          (fun row => { row with accessToken, refreshToken, expiresAt }) db.tokenSets }
    | none => { db with
        tokenSets := db.tokenSets ++
          [⟨nextId (·.id) db.tokenSets, userId, accessToken, refreshToken, expiresAt⟩] }

/-- The later of two sets of tokens; the first if they expire together. -/
def laterTokenSet (best : Option TokenSet) (row : TokenSet) : Option TokenSet :=
  match best with
  | none => some row
  | some best => if best.expiresAt < row.expiresAt then some row else some best

def getTwitchTokenSet (userId : String) : Operation (Option TokenSet) where
  name := "get_twitch_token_set"
  action := return ((← get).tokenSets.filter (·.userId == userId)).foldl laterTokenSet none

def deleteTwitchTokenSet (userId : String) : Operation Unit where
  name := "delete_twitch_token_set"
  action := modify fun db => { db with tokenSets := db.tokenSets.filter (·.userId != userId) }

/-! ### Pending clips -/

/-- Adds a clip that waits for approval.  Its name must not be the number of a row. -/
def addPendingSoundboardClip (name filename uploaderId uploaderLogin uploaderDisplayName : String)
    (mayPersistUploader : Bool) : Operation Unit where
  name := "add_pending_soundboard_clip"
  action := do
    let db ← get
    refuseExisting (.pendingClip name)
      (db.pendingClips.find? fun row => keyNumber? name == some row.id)
    let row : PendingClip := {
      id := nextId (·.id) db.pendingClips
      name, filename, uploaderId, uploaderLogin, uploaderDisplayName, mayPersistUploader }
    set { db with pendingClips := db.pendingClips ++ [row] }

def updatePendingSoundboardClip (id : Int) (name : String) (mayPersistUploader : Bool) :
    Operation Unit where
  name := "update_pending_soundboard_clip"
  action := do
    let _ ← requireFound (.pendingClipWithId id) ((← get).pendingClips.find? (·.id == id))
    modify fun db => { db with
      pendingClips := change (·.id == id)
        (fun row => { row with name, mayPersistUploader }) db.pendingClips }

def removePendingSoundboardClip (id : Int) : Operation Unit where
  name := "remove_pending_soundboard_clip"
  action := do
    let _ ← requireFound (.pendingClipWithId id) ((← get).pendingClips.find? (·.id == id))
    modify fun db => { db with pendingClips := db.pendingClips.filter (·.id != id) }

def getNumberOfPendingSoundboardClips : Operation Nat where
  name := "get_number_of_pending_soundboard_clips"
  action := return (← get).pendingClips.length

def clipsByName (rows : List PendingClip) : List PendingClip :=
  rows.mergeSort fun a b => a.name ≤ b.name

def getAllPendingSoundboardClips : Operation (List PendingClip) where
  name := "get_all_pending_soundboard_clips"
  action := return clipsByName (← get).pendingClips

def getPendingSoundboardClipsByTwitchUserId (userId : String) : Operation (List PendingClip) where
  name := "get_pending_soundboard_clips_by_twitch_user_id"
  action := return clipsByName ((← get).pendingClips.filter (·.uploaderId == userId))

/-! ### Entrance sounds -/

def addEntranceSound (userId filename : String) : Operation Unit where
  name := "add_entrance_sound"
  action := do
    refuseExisting (.entranceSound userId) ((← get).entranceSounds.find? (·.userId == userId))
    modify fun db => { db with entranceSounds := db.entranceSounds ++ [⟨userId, filename⟩] }

def getAllEntrySounds : Operation (List EntranceSound) where
  name := "get_all_entry_sounds"
  action := return (← get).entranceSounds

def getEntranceSoundByTwitchUserId (userId : String) : Operation (Option EntranceSound) where
  name := "get_entrance_sound_by_twitch_user_id"
  action := return (← get).entranceSounds.find? (·.userId == userId)

def deleteEntranceSound (userId : String) : Operation Unit where
  name := "delete_entrance_sound"
  action := do
    let _ ← requireFound (.entranceSound userId) ((← get).entranceSounds.find? (·.userId == userId))
    modify fun db => { db with entranceSounds := db.entranceSounds.filter (·.userId != userId) }

/-! ### Profiles -/

/-- Sets the address in a user's profile, which is added if there is none. -/
def upsertUserProfile (userId : String) (email : Option String) : Operation Unit where
  name := "upsert_user_profile"
  action := modify fun db =>
    if db.profiles.any (·.userId == userId) then
      { db with profiles := change (·.userId == userId) (fun row => { row with email }) db.profiles }
    else { db with profiles := db.profiles ++ [{ userId, email }] }

def getUserProfile (userId : String) : Operation (Option UserProfile) where
  name := "get_user_profile"
  action := return (← get).profiles.find? (·.userId == userId)

def deleteUserProfile (userId : String) : Operation Unit where
  name := "delete_user_profile"
  action := do
    let _ ← requireFound (.profile userId) ((← get).profiles.find? (·.userId == userId))
    modify fun db => { db with profiles := db.profiles.filter (·.userId != userId) }

def markEmailAsVerified (userId : String) : Operation Unit where
  name := "mark_email_as_verified"
  action := do
    let _ ← requireFound (.profile userId) ((← get).profiles.find? (·.userId == userId))
    modify fun db => { db with
      profiles := change (·.userId == userId)
        (fun row => { row with emailIsVerified := true }) db.profiles }

/-! ### Verification tokens -/

def addEmailVerificationToken (token userId : String) (createdAt : Time.Instant) :
    Operation Unit where
  name := "add_email_verification_token"
  action := do
    if (← get).verificationTokens.any (·.token == token) then throw .constraint
    modify fun db => { db with
      verificationTokens := db.verificationTokens ++ [⟨token, userId, createdAt⟩] }

def getEmailVerificationToken (token : String) : Operation (Option VerificationToken) where
  name := "get_email_verification_token"
  action := return (← get).verificationTokens.find? (·.token == token)

def deleteEmailVerificationToken (token : String) : Operation Unit where
  name := "delete_email_verification_token"
  action := do
    let _ ← requireFound (.verificationToken token)
      ((← get).verificationTokens.find? (·.token == token))
    modify fun db => { db with
      verificationTokens := db.verificationTokens.filter (·.token != token) }

def minutesAgo (now : Time.Instant) (minutes : Int) : Time.Instant :=
  ⟨now.micros - minutes * 60000000⟩

def purgeExpiredEmailVerificationTokens (now : Time.Instant) (expiryMinutes : Int) :
    Operation Unit where
  name := "purge_expired_email_verification_tokens"
  action := modify fun db => { db with
    verificationTokens := db.verificationTokens.filter fun row =>
      !decide (row.createdAt.micros < (minutesAgo now expiryMinutes).micros) }

/-! ### Notifications -/

def addNotification (userId message : String) (sentAt : Time.Instant) : Operation Unit where
  name := "add_notification"
  action := modify fun db => { db with
    notifications := db.notifications ++
      [⟨nextId (·.id) db.notifications, userId, message, sentAt, false⟩] }

def getNotification (id : Int) : Operation (Option Notification) where
  name := "get_notification"
  action := return (← get).notifications.find? (·.id == id)

def getNotifications (userId : String) : Operation (List Notification) where
  name := "get_notifications"
  action := return ((← get).notifications.filter (·.userId == userId)).mergeSort fun a b => b.id ≤ a.id

def markNotification (name : String) (id : Int) (hasBeenRead : Bool) : Operation Unit where
  name
  action := do
    let _ ← requireFound (.notification id) ((← get).notifications.find? (·.id == id))
    modify fun db => { db with
      notifications := change (·.id == id) (fun row => { row with hasBeenRead }) db.notifications }

def markNotificationAsRead (id : Int) : Operation Unit :=
  markNotification "mark_notification_as_read" id true

def markNotificationAsUnread (id : Int) : Operation Unit :=
  markNotification "mark_notification_as_unread" id false

def deleteNotification (id : Int) : Operation Unit where
  name := "delete_notification"
  action := do
    let _ ← requireFound (.notification id) ((← get).notifications.find? (·.id == id))
    modify fun db => { db with notifications := db.notifications.filter (·.id != id) }

end StreamBot.Database
