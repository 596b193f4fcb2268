import StreamBot.Web.Site
import StreamBot.Web.Token

/-! # Who visits the site

A visitor is known by a session token, and only as long as the site has tokens of the user.  Some parts of
the site are for users who are logged in, and some for the broadcaster alone.
-/

namespace StreamBot.Web

open Service (User)

structure Visitor where
  id : String
  login : String
  displayName : String
  deriving Repr, DecidableEq

namespace Visitor

def ofClaims? (claims : Json) : Option Visitor := do
  return ⟨← claims.textAt? "sub", ← claims.textAt? "login", ← claims.textAt? "display_name"⟩

def toClaims (v : Visitor) : Json :=
  .obj [("sub", .str v.id), ("login", .str v.login), ("display_name", .str v.displayName)]

def ofToken? (secret : String) (now : Time.Instant) (token : String) : Option Visitor := do
  let claims ← Token.verified? secret token
  if Token.isCurrent now claims then ofClaims? claims else none

def toJson (v : Visitor) : Json :=
  .obj [("id", .str v.id), ("login", .str v.login), ("display_name", .str v.displayName)]

end Visitor

def visitor? (r : Request) : SiteM (Option Visitor) := do
  let bot := (← get).bot
  match (Dict.get? r.cookies sessionCookie).bind
      (Visitor.ofToken? bot.config.sessionSecret bot.clock.now) with
  | none => return none
  | some visitor =>
    match ← attempt (Bot.perform (Database.getTwitchTokenSet visitor.id)) with
    | .ok tokens => return tokens.map fun _ => visitor
    | .error fault => if fault.isRefusal || fault.isAbsence then return none else throw (.fault fault)

def requireVisitor (visitor : Option Visitor) : SiteM Visitor :=
  match visitor with
  | some visitor => return visitor
  | none => refuse 401 "Not authenticated"

/-- A user is the broadcaster.  Nobody is if that cannot be found out. -/
def isBroadcaster (userId : String) : SiteM Bool := do
  match (← get).broadcasters.get? (← now) userId with
  | some answer => return answer
  | none =>
    let result ← attempt do
      Bot.speakFor userId
      return userId == (← Bot.ownBroadcasterId)
    let answer := match result with
      | .ok answer => answer
      | .error _ => false
    let time ← now
    modify fun site => { site with broadcasters := site.broadcasters.set time userId answer }
    return answer

def requireBroadcaster (visitor : Option Visitor) : SiteM Visitor := do
  let visitor ← requireVisitor visitor
  if !(← isBroadcaster visitor.id) then return ← refuse 403 "Broadcaster access required"
  return visitor

def requireModerator (visitor : Visitor) : SiteM Visitor := do
  let answer ← onBot do
    Bot.speakFor visitor.id
    Bot.isModerator (← Bot.ownBroadcasterId) visitor.id
  if !answer then return ← refuse 403 "Moderator access required"
  return visitor

/-- The ways to refuse a token that mean that the session is over. -/
def sessionOver : List String :=
  ["InvalidRefreshTokenException", "InvalidTokenException", "UnauthorizedException"]

def profileImage? (userId : String) : SiteM (Except Bot.Fault (Option String)) := do
  match (← get).profileImages.get? (← now) userId with
  | some url => return .ok (some url)
  | none =>
    match ← attempt (do Bot.speakFor userId; Bot.usersById [userId]) with
    | .error fault => return .error fault
    | .ok [] => return .ok none
    | .ok (user :: _) =>
      let time ← now
      modify fun site => { site with profileImages := site.profileImages.set time userId user.imageUrl }
      return .ok (some user.imageUrl)

/-- The visitor as pages show them, with a picture.  Nobody is shown when the session is over. -/
def shownVisitor (visitor : Option Visitor) : SiteM (Option Visitor × Option String) := do
  match visitor with
  | none => return (none, none)
  | some v =>
    match ← profileImage? v.id with
    | .ok image => return (some v, image)
    | .error (.tokenRejected kind) =>
      if sessionOver.contains kind then return (none, none) else throw (.fault (.tokenRejected kind))
    | .error fault => throw (.fault fault)

def isShownBroadcaster (visitor : Option Visitor) : SiteM Bool :=
  match visitor with
  | none => return false
  | some v => isBroadcaster v.id

def shownNotifications (visitor : Option Visitor) : SiteM (List Database.Notification) :=
  match visitor with
  | none => return []
  | some v => perform (Database.getNotifications v.id)

def frame (visitor : Option Visitor) : SiteM (List (String × Json)) := do
  let (visitor, image) ← shownVisitor visitor
  let broadcaster ← isShownBroadcaster visitor
  let pending ← perform Database.getNumberOfPendingSoundboardClips
  let notifications ← shownNotifications visitor
  let botName ← onBot (Bot.settingOr .botName "<bot name not set>")
  let authorName ← onBot (Bot.settingOr .authorName "<author name not set>")
  let year := (← get).bot.clock.now.date.year
  return [
    ("bot_name", .str botName), ("author_name", .str authorName), ("copyright_year", .int year),
    ("current_user", Json.ofOption Visitor.toJson visitor), ("profile_image_url", Json.ofText? image),
    ("is_broadcaster", .bool broadcaster), ("pending_clips_count", .int pending),
    ("unread_notifications_count", .int (notifications.filter (!·.hasBeenRead)).length),
    ("total_notifications_count", .int notifications.length)]

/-! ## Users of the streaming platform -/

def remember (users : List User) : SiteM Unit := do
  let time ← now
  modify fun site => users.foldl (fun site user => { site with
    usersById := site.usersById.set time user.id user
    usersByLogin := site.usersByLogin.set time user.login user }) site

/-- Users by what they were asked for: as they are remembered, if all of them are; else as the platform knows
them now. -/
def knownUsers (cache : Site → Cache User) (ask : List String → BotM (List User)) (key : User → String)
    (keys : List String) : SiteM (Dict String User) := do
  if keys.isEmpty then return []
  let known := ((cache (← get)).live (← now)).filter fun e => keys.contains e.key
  if known.length = keys.length then return known.map fun e => (e.key, e.value)
  let users := (← onBot (ask keys)).foldl (fun d user => Dict.set d (key user) user) []
  remember users.values
  return users

def usersWithIds (ids : List String) : SiteM (Dict String User) :=
  knownUsers (·.usersById) Bot.usersById (·.id) ids

def usersWithLogins (logins : List String) : SiteM (Dict String User) :=
  knownUsers (·.usersByLogin) Bot.usersByLogin (·.login) logins

/-- The user with an identifier, who must be among those that were found. -/
def userIn (users : Dict String User) (id : String) : SiteM User :=
  match Dict.get? users id with
  | some user => return user
  | none => throw (.fault (.unknownUser id))

def channelUrl (login : String) : String := "https://twitch.tv/" ++ login

end StreamBot.Web
