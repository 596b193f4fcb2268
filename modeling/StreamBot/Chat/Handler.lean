import StreamBot.Chat.Constants
import StreamBot.Chat.Giveaway
import StreamBot.Database.Tables
import StreamBot.Markdown.Placeholder
import StreamBot.Script.Tree
import StreamBot.Soundboard.Clip
import StreamBot.Trigger.Name

/-! # Commands that the bot knows

A handler has a name, which is a pattern, and an action.  The first handler whose pattern fits is the one
that a user calls.
-/

namespace StreamBot.Chat

open Trigger (Pattern)

inductive Action where
  | respond (response : String)
  /-- Responds with a text in which arguments take the place of parameters. -/
  | fill (response : String) (parameters : List String)
  | play (clip : Soundboard.Clip) (uploader : Database.Uploader)
  | execute (script : Script)
  | manageCommands
  | manageGiveaway
  | enterGiveaway
  | manageDictionary
  | manageSoundboard

structure Handler where
  name : String
  pattern : Pattern
  varied : Bool
  action : Action

namespace Handler

def plain (name : String) (action : Action) : Handler := ⟨name, .literal name, false, action⟩

def builtins : List Handler := [
  plain "command" .manageCommands,
  plain "giveaway" .manageGiveaway,
  plain Giveaway.enterCommand .enterGiveaway,
  plain "dict" .manageDictionary,
  plain "soundboard" .manageSoundboard]

def isClip (h : Handler) : Bool :=
  match h.action with
  | .play _ _ => true
  | _ => false

def level (h : Handler) : PermissionLevel :=
  match h.action with
  | .manageCommands | .manageDictionary => .moderator
  | .manageGiveaway | .manageSoundboard => .admin
  | _ => .viewer

/-- The handler is called by a text in lower case.  A pattern that fits one text only has to be written like
the text. -/
def answers (h : Handler) (text : String) : Bool :=
  if h.varied then h.pattern.matches text else h.pattern.alike (.literal text)

def usages (h : Handler) : List String :=
  match h.action with
  | .fill _ parameters =>
    (Trigger.aliases h.pattern).map fun text =>
      text ++ " " ++ Text.join " " (parameters.map placeholder)
  | .manageCommands => ["!command [add|add-script|update|remove] <parameters>..."]
  | .manageGiveaway => ["!giveaway <start|end|pick>"]
  | .enterGiveaway => ["!" ++ Giveaway.enterCommand]
  | .manageDictionary => ["!dict [add|remove] <word> [explanation]"]
  | .manageSoundboard => ["!soundboard [enable|disable]"]
  | _ => Trigger.aliases h.pattern

def builtinNames : List String := ["CURRENT_TIME", "CURRENT_DATE"]

/-- A response with its placeholders marked, and also as it is with the constants filled in, if that is not
the same. -/
def describeResponse (constants : List (String × String)) (parameters : List String) (response suffix : String) : String :=
  let names := builtinNames ++ constants.map (·.1) ++ parameters
  let marked := Markdown.quotePlaceholders (some names) response
  let filled := Markdown.quotePlaceholders none (fillConstants constants response)
  if marked != filled then
    marked ++ "\n\n*Note: This response contains constants, it expands to:*\n\n" ++ filled ++ suffix
  else marked ++ suffix

def describeParameters (parameters : List String) : String :=
  "\n\n*Parameters of this command:* " ++ Text.join ", " (parameters.map fun p => "`" ++ p ++ "`")

def description (constants : List (String × String)) (h : Handler) : String :=
  match h.action with
  | .respond response => describeResponse constants [] response ""
  | .fill response parameters =>
    describeResponse constants parameters response (describeParameters parameters)
  | .play clip _ => "Plays this clip: " ++ clip.url
  | .execute _ => s!"Executes the '{h.name}' script"
  | .manageCommands =>
    "Manage custom commands. Use `!command add` to add a new command, to add a soundboard command, " ++
      "`!command add-script` to add a script command, `!command update` to update an existing " ++
      "command, and `!command remove` to delete a command."
  | .manageGiveaway =>
    "Manage giveaways. Subcommands: `start` - Start a new giveaway, `end` - End the current " ++
      "giveaway, `pick` - Pick a random winner from the current participants."
  | .enterGiveaway => "Enter the current giveaway (if one is running)."
  | .manageDictionary =>
    "Manage the dictionary of words and their explanations. Use `!dict add` to add a word with its " ++
      "explanation and `!dict remove` to remove a word."
  | .manageSoundboard =>
    "Enables or disables the soundboard feature. Use `!soundboard enable` to enable and " ++
      "`!soundboard disable` to disable the soundboard."

/-- The handler that a text calls: one leading exclamation mark and the case of letters do not count. -/
def lookup? (handlers : List Handler) (text : String) : Option Handler :=
  let text := Text.lower (Text.dropPrefix text "!")
  handlers.find? (·.answers text)

/-- A response with arguments in the place of parameters, one parameter after the other; none if there are
too few arguments. -/
def injectArguments? (response : String) (parameters arguments : List String) : Option String :=
  if arguments.length < parameters.length then none
  else
    let replacements := (parameters.zip arguments).foldl
      (fun found (p, a) => Dict.set found (placeholder p) a) ([] : Dict String String)
    some (replacements.foldl (fun text (p, a) => Text.replace text p a) response)

end Handler
end StreamBot.Chat
