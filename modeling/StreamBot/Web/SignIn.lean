import StreamBot.Web.Visitor

/-! # Logging in and out

A user logs in at the streaming platform and comes back with a code.  The code is exchanged for tokens, and
the user gets a session token.  Logging out gives the tokens back.
-/

namespace StreamBot.Web

def scope : String := "user:read:moderated_channels"

def authorizeUrl (config : Config) (state : String) : String :=
  "https://id.twitch.tv/oauth2/authorize?response_type=code&client_id=" ++
    Text.percentEncoded config.webClientId ++ "&redirect_uri=" ++ Text.percentEncoded config.redirectUri ++
    "&scope=" ++ Text.percentEncoded scope ++ "&state=" ++ Text.percentEncoded state

/-- The result of a computation, or why it failed.  The state is the one after it in both cases. -/
def outcome {α : Type} (x : SiteM α) : SiteM (Except Failure α) := fun site =>
  let (result, site) := x site
  (.ok result, site)

def login : SiteM Reply := do
  let state := "state" ++ toString (← nextIssue)
  let config := (← get).bot.config
  return ⟨302, .redirect (authorizeUrl config state),
    [.set stateCookie state 600 loginPath (config.stage == .production)]⟩

def sessionReply (config : Config) (token : String) : Reply :=
  ⟨303, .redirect "/", [.delete stateCookie loginPath,
    .set sessionCookie token Bot.sessionSeconds "/" (config.stage == .production)]⟩

def sessionClaims (user : Service.User) (now : Time.Instant) : Json := .obj [
  ("sub", .str user.id), ("login", .str user.login), ("display_name", .str user.displayName),
  ("exp", .int (now.wholeSeconds + Bot.sessionSeconds)), ("iat", .int now.wholeSeconds)]

/-! ### Coming back from the streaming platform

Other requests may be served while a request waits for the platform.  Each of the functions below is what a request does
between two such points.
-/

/-- Hands a code to the platform, which gives an access token and a refresh token for it. -/
def redeem (code : String) : SiteM (String × String) := do
  onBot (Bot.note (.authenticate (some code)))
  match Dict.get? (← get).bot.services.codes code with
  | some tokens => return tokens
  | none => refuse 401 "Failed to authenticate with Twitch"

/-- Begins to use an access token; the platform may have a newer one. -/
def adopt (access : String) : SiteM String := return (← onBot (Bot.useToken access)).1

/-- Looks up the user of a token.  The tokens that the code was exchanged for are kept, and the user gets a session
token. -/
def welcome (access refresh token : String) : SiteM String := do
  match ← onBot (Bot.userOf? token) with
  | none => refuse 401 "Failed to retrieve user information from Twitch"
  | some user =>
    let bot := (← get).bot
    perform (Database.addOrUpdateTwitchTokenSet user.id access refresh
      (bot.clock.now.wholeSeconds + Bot.sessionSeconds))
    return Token.sign bot.config.sessionSecret (sessionClaims user bot.clock.now)

def exchange (code : String) : SiteM String := do
  let (access, refresh) ← redeem code
  welcome access refresh (← adopt access)

def Failure.text : Failure → String
  | .refused _ detail => detail
  | .unprocessable | .waits => ""
  | .fault f => f.message

/-- The number of the login that a request takes part in, and whether it owns the login. -/
def enterLogin (state : String) : SiteM (Nat × Bool) := do
  let time ← now
  modifyGet fun site =>
    let (entered, logins) := site.logins.enter time state
    (entered, { site with logins })

/-- The owner of a login has to come with the right cookie. -/
def requireStateCookie (r : Request) (n : Nat) (state : String) : SiteM Unit := do
  if Dict.get? r.cookies stateCookie ≠ some state then
    modify fun site => { site with logins := site.logins.refuse n }
    refuse 400 "OAuth state mismatch or missing code"

/-- The owner of a login leaves for the followers what came of it. -/
def settleLogin (n : Nat) (result : Except Failure String) : SiteM Reply :=
  match result with
  | .ok token => do
    modify fun site => { site with logins := site.logins.succeed n token }
    return sessionReply (← get).bot.config token
  | .error failure => do
    modify fun site => { site with logins := site.logins.fail n failure.text }
    throw failure

/-- What a follower gets once the owner of the login is done; none before. -/
def followLogin (config : Config) (l : Login) : Option (Except Failure Reply) :=
  if !l.done then none
  else match l.token with
    | some token => some (.ok (sessionReply config token))
    | none =>
      let error := (l.error.filter (!·.isEmpty)).getD "Failed to authenticate with Twitch"
      some (.error (.refused 401 error))

def Request.credentials? (r : Request) : Option (String × String) := do
  return (← Dict.get? r.query "state", ← Dict.get? r.query "code")

def loginReturn (r : Request) : SiteM Reply := do
  match r.credentials? with
  | some (state, code) =>
    let (n, owner) ← enterLogin state
    if owner then
      requireStateCookie r n state
      settleLogin n (← outcome (exchange code))
    else
      let site ← get
      match (site.logins.get? n).bind (followLogin site.bot.config) with
      | some (.ok reply) => return reply
      | some (.error failure) => throw failure
      | none => throw .waits
  | none => refuse 400 "Missing code or state parameter"

def logout (visitor : Option Visitor) : SiteM Reply := do
  if let some v := visitor then
    if let some tokens ← perform (Database.getTwitchTokenSet v.id) then
      onBot (Bot.note (.revoke tokens.accessToken))
    perform (Database.deleteTwitchTokenSet v.id)
  return ⟨302, .redirect "/", [.delete sessionCookie "/"]⟩

end StreamBot.Web
