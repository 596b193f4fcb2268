import StreamBot.Dict
import StreamBot.Mail.Letter
import StreamBot.Text.Printable

/-! # The configuration

All that is set from outside is read from environment variables at the start.  A variable that holds blanks
only counts as not set.
-/

namespace StreamBot

open Text
namespace Config

abbrev Environment := Dict String String

inductive Fault where
  | notSet (key : String)
  | notInteger (text : String)
  | unknownStage (text : String)
  | unknownProtection (text : String)
  deriving Repr, DecidableEq

def Fault.message : Fault → String
  | .notSet key => s!"Environment variable '{key}' is not set."
  | .notInteger text => "invalid literal for int() with base 10: " ++ quoted text
  | .unknownStage text => quoted text ++ " is not a valid Environment"
  | .unknownProtection text => "Unknown SMTP crypto kind: " ++ text

inductive Stage where
  | production
  | development
  deriving Repr, DecidableEq

def Stage.text : Stage → String
  | .production => "production"
  | .development => "development"

structure Tokens where
  access : String
  refresh : String
  deriving Repr, DecidableEq

def lookup (env : Environment) (key : String) : Option String :=
  match env.get? key with
  | some value =>
    let value := strip value
    if value.isEmpty then none else some value
  | none => none

def require (env : Environment) (key : String) : Except Fault String :=
  match lookup env key with
  | some value => .ok value
  | none => .error (.notSet key)

def integer (text : String) : Except Fault Int :=
  match integer? text with
  | some n => .ok n
  | none => .error (.notInteger text)

def stageOf (text : String) : Except Fault Stage :=
  match lower text with
  | "production" => .ok .production
  | "development" => .ok .development
  | other => .error (.unknownStage other)

def protectionOf (text : String) : Except Fault Mail.Protection :=
  match Mail.Protection.ofText? text with
  | some p => .ok p
  | none => .error (.unknownProtection text)

def tokensOf (access refresh : Option String) : Option Tokens := do
  return ⟨← access, ← refresh⟩

end Config

structure Config where
  stage : Config.Stage
  databaseFile : String
  dataRoot : String
  clientId : String
  clientSecret : String
  credentials : Option Config.Tokens
  channel : String
  webClientId : String
  webClientSecret : String
  redirectUri : String
  eventsUrl : String
  eventsPort : Int
  eventsSecret : String
  ignoreSubscriptions : Bool
  sessionSecret : String
  discordToken : String
  discordModeratorRole : Option Int
  mail : Mail.Server
  deriving Repr

namespace Config

/-- The configuration in some environment.  The first variable at fault is reported. -/
def ofEnvironment (env : Environment) : Except Fault Config := do
  let stage ← stageOf (← require env "ENVIRONMENT")
  let databaseFile ← require env "DATABASE_FILE"
  let dataRoot ← require env "DATA_ROOT_PATH"
  let clientId ← require env "TWITCH_CLIENT_ID"
  let clientSecret ← require env "TWITCH_CLIENT_SECRET"
  let credentials := tokensOf (lookup env "TWITCH_ACCESS_TOKEN") (lookup env "TWITCH_REFRESH_TOKEN")
  let channel ← require env "TWITCH_CHANNEL"
  let webClientId ← require env "TWITCH_CHATBOT_WEB_INTERFACE_CLIENT_ID"
  let webClientSecret ← require env "TWITCH_CHATBOT_WEB_INTERFACE_CLIENT_SECRET"
  let redirectUri ← require env "TWITCH_REDIRECT_URI"
  let eventsUrl ← require env "TWITCH_EVENTSUB_PUBLIC_URL"
  let eventsPort ← integer (← require env "TWITCH_EVENTSUB_LISTEN_PORT")
  let eventsSecret ← require env "TWITCH_EVENTSUB_SECRET"
  let ignoring ← require env "IGNORE_EXISTING_SUBSCRIPTIONS"
  let sessionSecret ← require env "JWT_SECRET"
  let discordToken ← require env "DISCORD_BOT_TOKEN"
  let discordModeratorRole ← (lookup env "DISCORD_MODERATOR_ROLE_ID").mapM integer
  let host ← require env "SMTP_HOST"
  let port ← integer (← require env "SMTP_PORT")
  let username ← require env "SMTP_USERNAME"
  let password ← require env "SMTP_PASSWORD"
  let protection ← protectionOf (← require env "SMTP_CRYPTO")
  let sender ← require env "FROM_EMAIL_ADDRESS"
  return {
    stage, databaseFile := normalPath databaseFile, dataRoot := normalPath dataRoot, clientId,
    clientSecret, credentials, channel, webClientId, webClientSecret, redirectUri, eventsUrl,
    eventsPort, eventsSecret, ignoreSubscriptions := lower ignoring == "true",
    sessionSecret, discordToken, discordModeratorRole,
    mail := { host, port, username, password, protection, sender } }

end Config
end StreamBot

/-! ## The file of environment variables

A line of the file sets a variable: `KEY=value`, perhaps with `export` before it.  `update` gives variables
new values where they are set, and appends those that are not set anywhere.  All other lines stay.
-/

namespace StreamBot.Config.EnvFile

open Text

/-- A line without the blanks before it sets a variable. -/
def setsKey (line key : String) : Bool :=
  startsWith line (key ++ "=") || startsWith line ("export " ++ key ++ "=")

def setLine (line : String) (key value : String) : String :=
  let stripped := stripStart line
  let margin := String.ofList (line.toList.take (line.length - stripped.length))
  let exported := if startsWith stripped "export " then "export " else ""
  let lineEnd := if endsWith line "\n" then "\n" else ""
  margin ++ exported ++ key ++ "=" ++ value ++ lineEnd

def setBy? (updates : Dict String String) (line : String) : Option (String × String) :=
  updates.find? fun (key, _) => setsKey (stripStart line) key

def updateLine (updates : Dict String String) (line : String) : String :=
  match setBy? updates line with
  | some (key, value) => setLine line key value
  | none => line

def endLast (ls : List String) : List String :=
  match ls.getLast? with
  | some last => if endsWith last "\n" then ls else ls.dropLast ++ [last ++ "\n"]
  | none => []

def update (content : String) (updates : Dict String String) : String :=
  let ls := (linesWithEnds (unifyLineEnds content.toList)).map String.ofList
  let found := ls.filterMap fun line => (setBy? updates line).map (·.1)
  let missing := updates.filter fun (key, _) => !found.contains key
  String.join (endLast (ls.map (updateLine updates)) ++
    missing.map fun (key, value) => key ++ "=" ++ value ++ "\n")

end StreamBot.Config.EnvFile
