import StreamBot.Web.Request

/-! # The paths of the site

Names and numbers in a path are never empty and hold no slash, but for the name of a script, which is all
that follows.
-/

namespace StreamBot.Web

inductive Route where
  | commands
  | clips
  | refreshScript (name : String)
  | imprint
  | loginPage
  | overlay
  | overlayEvents
  /-- The way to the streaming platform, the way back from it, and out. -/
  | login
  | loginReturn
  | logout
  | settings
  | saveSettings
  | constants
  | addConstant
  | changeConstant (name : String)
  | deleteConstant (name : String)
  | broadcasts
  | addBroadcast
  | changeBroadcast (id : String)
  | deleteBroadcast (id : String)
  | watched
  | addWatched
  | changeWatched (id : String)
  | deleteWatched (id : String)
  | soundboard
  | uploadClip
  | renameClip (name : String)
  | changeVolume (name : String)
  | deleteClip (name : String)
  | pendingClips
  | approveClip (id : String)
  | rejectClip (id : String)
  | entranceSounds
  | findUser
  | uploadEntranceSound
  | deleteEntranceSound (userId : String)
  | resetEntranceSounds
  | raidActions
  | addRaidAction
  | changeRaidAction (id : String)
  | deleteRaidAction (id : String)
  | dashboard
  | notifications
  | markRead (id : String)
  | markUnread (id : String)
  | deleteNotification (id : String)
  | profile
  | saveProfile
  | deleteProfile
  | verifyAddress (token : String)
  | ownClips
  | uploadOwnClip
  | changeOwnClip (id : String)
  | deleteOwnClip (id : String)
  deriving Repr, DecidableEq

namespace Route

inductive Audience where
  | everybody
  | users
  | broadcaster
  deriving Repr, DecidableEq

/-- A route with a name or a number in its path, which must not be empty. -/
def withName (method : Method) (route : String → Route) (name : String) : List (Method × Route) :=
  if name.isEmpty then [] else [(method, route name)]

def ofAdminPath : List String → List (Method × Route)
  | [""] => [(.get, settings), (.post, saveSettings)]
  | ["constants"] => [(.get, constants)]
  | ["constants", "add"] => [(.post, addConstant)]
  | ["constants", name, "update"] => withName .post changeConstant name
  | ["constants", name, "delete"] => withName .post deleteConstant name
  | ["broadcasts"] => [(.get, broadcasts)]
  | ["broadcasts", "add"] => [(.post, addBroadcast)]
  | ["broadcasts", id, "update"] => withName .post changeBroadcast id
  | ["broadcasts", id, "delete"] => withName .post deleteBroadcast id
  | ["live-notifications"] => [(.get, watched)]
  | ["live-notifications", "add"] => [(.post, addWatched)]
  | ["live-notifications", "update", id] => withName .post changeWatched id
  | ["live-notifications", "delete", id] => withName .post deleteWatched id
  | ["soundboard"] => [(.get, soundboard)]
  | ["soundboard", "upload"] => [(.post, uploadClip)]
  | ["soundboard", "update", name] => withName .post renameClip name
  | ["soundboard", "volume", name] => withName .post changeVolume name
  | ["soundboard", "delete", name] => withName .post deleteClip name
  | ["pending-clips"] => [(.get, pendingClips)]
  | ["pending-clips", "approve", id] => withName .post approveClip id
  | ["pending-clips", "reject", id] => withName .post rejectClip id
  | ["entrance-sounds"] => [(.get, entranceSounds)]
  | ["api", "validate-twitch-user"] => [(.get, findUser)]
  | ["entrance-sounds", "upload"] => [(.post, uploadEntranceSound)]
  | ["entrance-sounds", userId, "delete"] => withName .post deleteEntranceSound userId
  | ["entrance-sounds", "reset-session"] => [(.post, resetEntranceSounds)]
  | ["event-actions"] => [(.get, raidActions)]
  | ["event-actions", "add"] => [(.post, addRaidAction)]
  | ["event-actions", "update", id] => withName .post changeRaidAction id
  | ["event-actions", "delete", id] => withName .post deleteRaidAction id
  | _ => []

def ofViewerPath : List String → List (Method × Route)
  | [""] => [(.get, dashboard)]
  | ["notifications"] => [(.get, notifications)]
  | ["notifications", "mark-as-read", id] => withName .post markRead id
  | ["notifications", "mark-as-unread", id] => withName .post markUnread id
  | ["notifications", "delete", id] => withName .post deleteNotification id
  | ["profile"] => [(.get, profile), (.post, saveProfile)]
  | ["profile", "delete"] => [(.post, deleteProfile)]
  | ["verify-email", token] => withName .get verifyAddress token
  | ["soundboard"] => [(.get, ownClips)]
  | ["soundboard", "upload"] => [(.post, uploadOwnClip)]
  | ["soundboard", "update", id] => withName .post changeOwnClip id
  | ["soundboard", "delete", id] => withName .post deleteOwnClip id
  | _ => []

def ofPublicPath : List String → List (Method × Route)
  | [""] => [(.get, commands)]
  | ["soundboard"] => [(.get, clips)]
  | "api" :: "refresh-source-code" :: first :: rest =>
    [(.post, refreshScript (Text.join "/" (first :: rest)))]
  | ["imprint"] => [(.get, imprint)]
  | ["login"] => [(.get, loginPage)]
  | ["overlay"] => [(.get, overlay)]
  | ["overlay", "events"] => [(.get, overlayEvents)]
  | ["auth", "twitch", "login"] => [(.get, login)]
  | ["auth", "twitch", "callback"] => [(.get, loginReturn)]
  | ["auth", "twitch", "logout"] => [(.get, logout)]
  | _ => []

def ofPath (path : String) : Audience × List (Method × Route) :=
  match Text.splitOn path "/" with
  | "" :: "admin" :: rest => (.broadcaster, ofAdminPath rest)
  | "" :: "viewer" :: rest => (.users, ofViewerPath rest)
  | "" :: rest => (.everybody, ofPublicPath rest)
  | _ => (.everybody, [])

end Route
end StreamBot.Web
