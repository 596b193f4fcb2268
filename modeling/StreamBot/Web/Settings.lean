import StreamBot.Time.Region
import StreamBot.Web.Visitor

/-! # General settings -/

namespace StreamBot.Web

open Database (SettingKind)

/-- The frame of a page for the broadcaster or for a user, with the name of the page. -/
def framed (frame : List (String × Json)) (page : String) (fields : List (String × Json)) :
    List (String × Json) := frame ++ ("active_page", .str page) :: fields

def setting? (kind : SettingKind) : SiteM (Option String) :=
  perform (Database.retrieveConfigurationSetting kind)

def digitsValue (text : String) : SiteM Int :=
  match Text.integer? text with
  | some n => return n
  | none => throw (.fault (.notInteger text))

/-- The positive integer that a setting is; none if it is something else. -/
def positive? (text : String) : SiteM (Option Int) := do
  if !Text.isDigits text then return none
  let n ← digitsValue text
  return if n < 1 then none else some n

def settingsPage (frame : List (String × Json)) : SiteM Reply := do
  let botName ← setting? .botName
  let authorName ← setting? .authorName
  let timezone ← setting? .timezone
  let locale ← setting? .locale
  let maxClips ← setting? .maxPendingClips
  let maxClipsPerUser ← setting? .maxPendingClipsPerUser
  let email ← setting? .broadcasterEmail
  let timeout ← perform (Database.retrieveConfigurationSettingOrRaise .scriptTimeout)
  match ← positive? timeout with
  | none => refuse 500 "Invalid script execution timeout configuration"
  | some timeout =>
    return .page "admin/general_settings.html" (framed frame "general_settings" [
      ("current_bot_name", Json.ofText? botName), ("current_author_name", Json.ofText? authorName),
      ("current_timezone", Json.ofText? timezone), ("current_locale", Json.ofText? locale),
      ("current_max_pending_soundboard_clips", Json.ofText? maxClips),
      ("current_max_pending_soundboard_clips_per_user", Json.ofText? maxClipsPerUser),
      ("current_broadcaster_email_address", Json.ofText? email),
      ("current_script_execution_timeout", .int timeout),
      ("available_timezones", Json.ofTexts (Time.commonZones (← get).zones)),
      ("available_locales", Json.ofList (fun (name, label) => Json.ofTexts [name, label])
        Time.commonLocales)])

def requireText (text complaint : String) : SiteM String := do
  let text := Text.strip text
  if text.isEmpty then return ← refuse 400 complaint
  return text

def requireAtLeast (least : Int) (text complaint : String) : SiteM Int := do
  match Text.integer? (Text.strip text) with
  | some n => if n < least then refuse 400 complaint else return n
  | none => refuse 400 complaint

def saveSettings (r : Request) : SiteM Reply := do
  let botName ← r.field "bot_name"
  let authorName ← r.field "author_name"
  let timezone ← r.field "timezone"
  let locale ← r.field "locale"
  let maxClips ← r.field "max_pending_soundboard_clips"
  let maxClipsPerUser ← r.field "max_pending_soundboard_clips_per_user"
  let timeout ← r.field "script_execution_timeout"
  let email ← r.fieldOr "broadcaster_email_address" ""
  let botName ← requireText botName "Bot name cannot be empty"
  let authorName ← requireText authorName "Author name cannot be empty"
  let timezone ← requireText timezone "Timezone cannot be empty"
  let locale ← requireText locale "Locale cannot be empty"
  let maxClips ← requireAtLeast 0 maxClips "Max pending soundboard clips must be a non-negative integer"
  let maxClipsPerUser ← requireAtLeast 0 maxClipsPerUser
    "Max pending soundboard clips per user must be a non-negative integer"
  let timeout ← requireAtLeast 1 timeout "Script execution timeout must be a positive integer"
  let values : List (SettingKind × String) := [
    (.botName, botName), (.authorName, authorName), (.timezone, timezone), (.locale, locale),
    (.maxPendingClips, toString maxClips), (.maxPendingClipsPerUser, toString maxClipsPerUser),
    (.broadcasterEmail, Text.strip email), (.scriptTimeout, toString timeout)]
  values.forM fun (kind, value) => perform (Database.storeConfigurationSetting kind value)
  goTo "/admin/"

end StreamBot.Web
