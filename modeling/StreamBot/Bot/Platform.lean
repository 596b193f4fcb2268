import StreamBot.Bot.State

/-! # Questions to the services

What is asked is written down before it is answered.  The streaming platform is asked on behalf of the bot or
of a user; for a user the tokens that they gave are used, and replaced when the platform has new ones.
-/

namespace StreamBot.Bot

open Service (Entry User)

def note (entry : Entry) : BotM Unit := modify fun bot => { bot with journal := bot.journal ++ [entry] }

/-- What comes back from an address on the web; none if it cannot be reached. -/
def page? (url : String) : BotM (Option Service.Page) := do
  note (.page url)
  return Dict.get? (← get).services.pages url

def ask (entry : Entry) : BotM Service.World := do
  note entry
  let services := (← get).services
  if services.down then throw .platformDown
  return services

def usersById (ids : List String) : BotM (List User) := return (← ask (.usersById ids)).usersById ids

def usersByLogin (logins : List String) : BotM (List User) :=
  return (← ask (.usersByLogin logins)).usersByLogin logins

def userOf? (token : String) : BotM (Option User) := return (← ask (.userOf token)).userOf? token

def sessionSeconds : Int := 7 * 24 * 60 * 60

/-- Uses an access token: the one that is used from now on, and the new tokens if the platform has some. -/
def useToken (token : String) : BotM (String × Option (String × String)) := do
  let services := (← get).services
  match Dict.get? services.rejected token with
  | some kind => throw (.tokenRejected kind)
  | none =>
    match Dict.get? services.refreshed token with
    | some (access, refresh) => return (access, some (access, refresh))
    | none => return (token, none)

def speakFor (userId : String) : BotM Unit := do
  match ← perform (Database.getTwitchTokenSet userId) with
  | none => throw (.noTokens userId)
  | some tokens =>
    match ← useToken tokens.accessToken with
    | (_, some (access, refresh)) =>
      let expiry := (← get).clock.now.wholeSeconds + sessionSeconds
      perform (Database.addOrUpdateTwitchTokenSet userId access refresh expiry)
    | (_, none) => return ()

def ownBroadcasterId : BotM String := do
  let channel := (← get).config.channel
  match ← usersByLogin [channel] with
  | user :: _ => return user.id
  | [] => throw (.unknownChannel channel)

def isModerator (broadcasterId userId : String) : BotM Bool := do
  if userId = broadcasterId then return true
  let services ← ask (.moderatedBy userId)
  return ((Dict.get? services.moderated userId).getD []).contains broadcasterId

/-! ## Letters and notifications to users -/

def sendMail (recipient subject text : String) : BotM Unit := do
  let bot ← get
  let delivery : Mail.Delivery := ⟨bot.config.mail, recipient, subject, Mail.body text⟩
  if !delivery.isWellFormed then throw .brokenLetterHead
  if bot.services.mailDown then throw .mailServerDown
  set { bot with mail := bot.mail ++ [delivery] }

def signature : BotM String := do
  settingOr .botName ("Chatbot of " ++ (← get).config.channel)

/-- Leaves a user a notification, and writes a letter too if the user has confirmed an address. -/
def notify (userId notification subject letter : String) : BotM Unit := do
  let now := (← get).clock.now
  perform (Database.addNotification userId notification now)
  match ← perform (Database.getUserProfile userId) with
  | some { email := some address, emailIsVerified := true, .. } => sendMail address subject letter
  | _ => return ()

end StreamBot.Bot
