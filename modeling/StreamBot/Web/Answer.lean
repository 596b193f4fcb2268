import StreamBot.Web.Overlay
import StreamBot.Web.Route
import StreamBot.Web.SignIn
import StreamBot.Web.Texts
import StreamBot.Web.Viewer
import StreamBot.Web.Watched

/-! # Answers to requests

A request is answered in this order: the route is found, it is looked at who makes the request, what all
pages show is put together if the answer is a page, and then the values in the request are read.  A request
that is refused gets a page with the reason.
-/

namespace StreamBot.Web

def inFrame (visitor : Option Visitor) (page : List (String × Json) → SiteM Reply) : SiteM Reply := do
  page (← frame visitor)

def answerPublic (r : Request) (visitor : SiteM (Option Visitor)) (route : Route) : SiteM Reply := do
  match route with
  | .commands => inFrame (← visitor) commandsPage
  | .clips => clipsData
  | .refreshScript name => do
    let _ ← requireBroadcaster (← visitor)
    refreshScript name
  | .imprint => inFrame (← visitor) fun frame => return .page "imprint.html" frame
  | .loginPage => inFrame (← visitor) fun frame => return .page "login.html" frame
  | .overlay => return .page "overlay.html" []
  | .overlayEvents => overlayEvents r.happenings
  | .login => login
  | .loginReturn => loginReturn r
  | .logout => logout (← visitor)
  | _ => return ⟨404, .empty, []⟩

def answerBroadcaster (r : Request) (visitor : Visitor) (route : Route) : SiteM Reply := do
  let page := inFrame (some visitor)
  match route with
  | .settings => page settingsPage
  | .saveSettings => saveSettings r
  | .constants => page constantsPage
  | .addConstant => addConstant r
  | .changeConstant name => changeConstant r name
  | .deleteConstant name => deleteConstant name
  | .broadcasts => page broadcastsPage
  | .addBroadcast => addBroadcast r
  | .changeBroadcast id => changeBroadcast r id
  | .deleteBroadcast id => deleteBroadcast id
  | .watched => page watchedPage
  | .addWatched => addWatched r
  | .changeWatched id => changeWatched r id
  | .deleteWatched id => deleteWatched id
  | .soundboard => page soundboardPage
  | .uploadClip => uploadClip r visitor
  | .renameClip name => renameClip r name
  | .changeVolume name => changeVolume r name
  | .deleteClip name => deleteClip name
  | .pendingClips => page pendingClipsPage
  | .approveClip id => approveClip r id
  | .rejectClip id => rejectClip r id
  | .entranceSounds => page entranceSoundsPage
  | .findUser => findUser r
  | .uploadEntranceSound => uploadEntranceSound r
  | .deleteEntranceSound userId => deleteEntranceSound userId
  | .resetEntranceSounds => resetEntranceSounds
  | .raidActions => page raidActionsPage
  | .addRaidAction => addRaidAction r
  | .changeRaidAction id => changeRaidAction r id
  | .deleteRaidAction id => deleteRaidAction id
  | _ => return ⟨404, .empty, []⟩

def answerUser (r : Request) (visitor : Visitor) (route : Route) : SiteM Reply := do
  let page := fun (f : List (String × Json) → Visitor → SiteM Reply) =>
    inFrame (some visitor) fun frame => f frame visitor
  match route with
  | .dashboard => dashboard visitor
  | .notifications => page notificationsPage
  | .markRead id => withNotification visitor id Database.markNotificationAsRead
  | .markUnread id => withNotification visitor id Database.markNotificationAsUnread
  | .deleteNotification id => withNotification visitor id Database.deleteNotification
  | .profile => page fun frame visitor => profilePage frame visitor r
  | .saveProfile => saveProfile r visitor
  | .deleteProfile => deleteProfile visitor
  | .verifyAddress token => verifyAddress token
  | .ownClips => page ownClipsPage
  | .uploadOwnClip => uploadOwnClip r visitor
  | .changeOwnClip id => changeOwnClip r visitor id
  | .deleteOwnClip id => deleteOwnClip visitor id
  | _ => return ⟨404, .empty, []⟩

def answerRoute (r : Request) (audience : Route.Audience) (route : Route) : SiteM Reply := do
  match audience with
  | .everybody => answerPublic r (visitor? r) route
  | .users => answerUser r (← requireVisitor (← visitor? r)) route
  | .broadcaster => answerBroadcaster r (← requireBroadcaster (← visitor? r)) route

def errorPage (r : Request) (status : Nat) (detail : String) : SiteM Reply := do
  let frame ← frame (← visitor? r)
  return ⟨status, .page "error.html" (frame ++ [("error_detail", .str detail)]), []⟩

def answerFailure (r : Request) : Failure → SiteM Reply
  | .refused status detail => errorPage r status detail
  | .unprocessable => return ⟨422, .empty, []⟩
  | failure => throw failure

def answer (r : Request) : SiteM Reply :=
  let (audience, routes) := Route.ofPath r.path
  match routes.lookup r.method with
  | some route => tryCatch (answerRoute r audience route) (answerFailure r)
  | none => return ⟨if routes.isEmpty then 404 else 405, .empty, []⟩

end StreamBot.Web
