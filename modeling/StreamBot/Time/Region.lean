import StreamBot.Text.Search

/-! # Time zones and locales

The choices that are offered for the settings of time zone and locale.
-/

namespace StreamBot.Time

def regions : List String := ["America/", "Europe/", "Asia/", "Australia/", "Pacific/", "Africa/"]

def isCommonZone (zone : String) : Bool :=
  zone == "UTC" || regions.any (Text.startsWith zone ·)

/-- The time zones that are offered, in order, with the universal time first. -/
def commonZones (available : List String) : List String :=
  let zones := (available.filter isCommonZone).mergeSort (· ≤ ·)
  zones.filter (· == "UTC") ++ zones.filter (· != "UTC")

def commonLocales : List (String × String) := [
  ("de_DE.UTF-8", "German (Germany)"),
  ("de_AT.UTF-8", "German (Austria)"),
  ("de_CH.UTF-8", "German (Switzerland)"),
  ("en_US.UTF-8", "English (United States)"),
  ("en_GB.UTF-8", "English (United Kingdom)"),
  ("en_CA.UTF-8", "English (Canada)"),
  ("en_AU.UTF-8", "English (Australia)"),
  ("fr_FR.UTF-8", "French (France)"),
  ("fr_CA.UTF-8", "French (Canada)"),
  ("fr_BE.UTF-8", "French (Belgium)"),
  ("fr_CH.UTF-8", "French (Switzerland)"),
  ("es_ES.UTF-8", "Spanish (Spain)"),
  ("es_MX.UTF-8", "Spanish (Mexico)"),
  ("es_AR.UTF-8", "Spanish (Argentina)"),
  ("it_IT.UTF-8", "Italian (Italy)"),
  ("pt_PT.UTF-8", "Portuguese (Portugal)"),
  ("pt_BR.UTF-8", "Portuguese (Brazil)"),
  ("nl_NL.UTF-8", "Dutch (Netherlands)"),
  ("nl_BE.UTF-8", "Dutch (Belgium)"),
  ("pl_PL.UTF-8", "Polish (Poland)"),
  ("ru_RU.UTF-8", "Russian (Russia)"),
  ("ja_JP.UTF-8", "Japanese (Japan)"),
  ("ko_KR.UTF-8", "Korean (South Korea)"),
  ("zh_CN.UTF-8", "Chinese (Simplified, China)"),
  ("zh_TW.UTF-8", "Chinese (Traditional, Taiwan)"),
  ("sv_SE.UTF-8", "Swedish (Sweden)"),
  ("da_DK.UTF-8", "Danish (Denmark)"),
  ("no_NO.UTF-8", "Norwegian (Norway)"),
  ("fi_FI.UTF-8", "Finnish (Finland)"),
  ("tr_TR.UTF-8", "Turkish (Turkey)"),
  ("ar_SA.UTF-8", "Arabic (Saudi Arabia)"),
  ("he_IL.UTF-8", "Hebrew (Israel)"),
  ("hi_IN.UTF-8", "Hindi (India)"),
  ("th_TH.UTF-8", "Thai (Thailand)")]

end StreamBot.Time
