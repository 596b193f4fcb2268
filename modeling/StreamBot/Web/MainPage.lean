import StreamBot.Database.Columns
import StreamBot.Markdown.Html
import StreamBot.Web.Visitor

/-! # The page with all commands -/

namespace StreamBot.Web

open Chat (Handler)

def levelText : Chat.PermissionLevel → String
  | .viewer => "User"
  | .moderator => "Moderator"
  | .admin => "Administrator"

def looksLikeUrl (text : String) : Bool :=
  Text.startsWith text "http://" || Text.startsWith text "https://"

/-- Fetches the source text of a script from the web and keeps it; none if that fails. -/
def fetchSource (url : String) : SiteM (Option String) := do
  let result ← attempt do
    match ← Bot.page? url with
    | some (.text content) =>
      Bot.perform (Database.addOrUpdateCachedSourceCode url content)
      return some content
    | _ => return none
  match result with
  | .ok content => return content
  | .error _ => return none

/-- The source text of a script on the web, as it was fetched before or else as it is now. -/
def sourceOf (url : String) : SiteM (Option String) := do
  match ← perform (Database.getCachedSourceCode url) with
  | some content => return some content
  | none => fetchSource url

def firstUsage (h : Handler) : SiteM String :=
  match h.usages with
  | usage :: _ => return usage
  | [] => throw (.fault .noUsage)

def sortedBy {α : Type} (key : α → String) (rows : List α) : List α :=
  rows.mergeSort fun a b => key a ≤ key b

def inOrder (rows : List (String × Json)) : Json := .arr ((sortedBy (·.1) rows).map (·.2))

def scriptRow? (h : Handler) : SiteM (Option (String × Json)) := do
  match ← perform (Database.getScript h.name) with
  | none => return none
  | some script =>
    let isUrl := looksLikeUrl script.sourceCode
    let source ← if isUrl then sourceOf script.sourceCode else pure (some script.sourceCode)
    return some (← firstUsage h, .obj [
      ("command", .str h.name), ("aliases", Json.ofTexts h.usages),
      ("source_code", Json.ofText? source),
      ("source_code_url", Json.ofText? (if isUrl then some script.sourceCode else none))])

def clipRow (name : String) (aliases : List String) (clip : Soundboard.Clip) (uploader : Database.Uploader) : Json := .obj [
  ("command", .str name), ("aliases", Json.ofTexts aliases), ("clip_url", .str clip.url),
  ("uploader_twitch_login", Json.ofText? uploader.login),
  ("uploader_twitch_display_name", Json.ofText? uploader.displayName), ("volume", .float clip.volume)]

def constantRows : SiteM Json := do
  return Json.ofList (·.toJson) (sortedBy (·.name) (← perform Database.getConstants))

def commandsPage (frame : List (String × Json)) : SiteM Reply := do
  let handlers := (← get).bot.handlers
  let commands ← handlers.filterMapM fun h => do
    match h.action with
    | .play _ _ | .execute _ => return none
    | _ =>
      let description := h.description (← onBot Bot.constants)
      return some (← firstUsage h, Json.obj [
        ("aliases", Json.ofTexts h.usages),
        ("description", .str (Markdown.toSafeHtml description)),
        ("required_permission_level", .str (levelText h.level))])
  let scripts ← handlers.filterMapM fun h => do
    match h.action with
    | .execute _ => scriptRow? h
    | _ => return none
  let constants ← constantRows
  let clips ← handlers.filterMapM fun h => do
    match h.action with
    | .play clip uploader => return some (← firstUsage h, clipRow h.name h.usages clip uploader)
    | _ => return none
  let words := (← get).bot.dictionary.explanations.map fun (word, explanation) =>
    (Text.lower word, Json.obj [
      ("word", .str word), ("explanation", .str (Markdown.toSafeHtml explanation))])
  return .page "commands.html" (frame ++ [
    ("commands", inOrder commands), ("dictionary_entries", inOrder words), ("constants", constants),
    ("script_commands", inOrder scripts), ("soundboard_commands", inOrder clips)])

def clipsData : SiteM Reply := do
  let address := (← get).address
  let rows ← (← get).bot.handlers.filterMapM fun h => do
    match h.action with
    | .play clip uploader => return some (Json.obj [
        ("command", .str (← firstUsage h)),
        ("clip_url", .str (address ++ "/" ++ Text.dropPrefix clip.url "/")),
        ("uploader_twitch_display_name", Json.ofText? uploader.displayName)])
    | _ => return none
  return ⟨200, .data (.obj [("commands", .arr rows)]), []⟩

def refreshScript (name : String) : SiteM Reply := do
  let wanted := Text.lower (Text.dropPrefix name "!")
  let missing := fun (what : String) => s!"Script command '{name}' {what}"
  match (← get).bot.handlers.find? fun h => Text.lower h.name == wanted with
  | some { name := stored, action := .execute _, .. } =>
    match ← perform (Database.getScript stored) with
    | none => refuse 404 (missing "has no associated script in the database.")
    | some script =>
      if !looksLikeUrl script.sourceCode then
        return ← refuse 400 (missing "does not have a URL source code.")
      match ← fetchSource script.sourceCode with
      | some _ => return ⟨200, .data .null, []⟩
      | none => refuse 500 s!"Failed to fetch source code for script command '{name}'."
  | _ => refuse 404 (missing "not found.")

end StreamBot.Web
