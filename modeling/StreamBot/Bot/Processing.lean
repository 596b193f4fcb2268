import StreamBot.Bot.Broadcasting
import StreamBot.Bot.Management

/-! # What commands do

A command gives its responses, or none at all if it is used in a wrong way.
-/

namespace StreamBot.Bot

open Chat (Handler Message)

def manageGiveaway (message : Message) (arguments : List String) : BotM (Option (List String)) := do
  if !message.platform.features.giveaways then return some []
  let bot ← get
  let change? : Option (Chat.Giveaway → Chat.Giveaway × Chat.Giveaway.Reply) :=
    match arguments.head?.map Text.lower with
    | some "start" => some Chat.Giveaway.start
    | some "end" => some Chat.Giveaway.stop
    | some "pick" => some (Chat.Giveaway.pick bot.draw)
    | _ => none
  match change? with
  | none => return none
  | some change =>
    let (giveaway, reply) := change bot.giveaway
    set { bot with giveaway }
    return some reply.texts

def enterGiveaway (message : Message) : BotM (Option (List String)) := do
  if !message.platform.features.giveaways then return some []
  let bot ← get
  let (giveaway, reply) := bot.giveaway.enter ⟨message.sender, message.platform⟩
  set { bot with giveaway }
  return some reply.texts

def addWord (word explanation : String) : BotM String := do
  let bot ← get
  if bot.dictionary.has word then
    return s!"Cannot add '{word}': it already exists in the dictionary."
  set { bot with dictionary := bot.dictionary.add word explanation }
  let _ ← perform (Database.addDictionaryEntry word explanation)
  return s!"Added '{word}' to the dictionary."

def updateWord (word explanation : String) : BotM String := do
  let bot ← get
  match bot.dictionary.entries.find? fun e => Chat.Dictionary.sameWord e.word word with
  | none => return s!"Cannot update '{word}': it does not exist in the dictionary."
  | some entry =>
    let entries := Chat.Dictionary.explainAnew word explanation bot.dictionary.entries
    set { bot with dictionary := { bot.dictionary with entries } }
    perform (Database.updateDictionaryEntryCaseInsensitive entry.word explanation)
    return s!"Updated '{word}' in the dictionary."

def removeWord (message : Message) (argument : String) : BotM String := do
  let word := Text.lower argument
  let bot ← get
  if !bot.dictionary.entries.any fun e => Text.lower e.word == word then
    return s!"Cannot remove '{word}': it does not exist in the dictionary."
  set { bot with dictionary := bot.dictionary.remove message.platform word }
  perform (Database.removeDictionaryEntryCaseInsensitive word)
  return s!"Removed '{word}' from the dictionary."

def manageDictionary (message : Message) (arguments : List String) : BotM (Option (List String)) := do
  match arguments with
  | first :: more =>
    match Text.lower first, more with
    | "add", [word, explanation] => return some [← addWord word explanation]
    | "update", [word, explanation] => return some [← updateWord word explanation]
    | "remove", [word] => return some [← removeWord message word]
    | _, _ => return none
  | [] => return none

def manageSoundboard (arguments : List String) : BotM (Option (List String)) := do
  match arguments.head?.map Text.lower with
  | some "enable" =>
    modify fun bot => { bot with soundboardEnabled := true }
    return some [← translation .soundboardEnabled]
  | some "disable" =>
    modify fun bot => { bot with soundboardEnabled := false }
    return some [← translation .soundboardDisabled]
  | _ => return none

def handle (handler : Handler) (message : Message) (arguments : List String) :
    BotM (Option (List String)) := do
  match handler.action with
  | .respond response => return some [← fillResponse message response]
  | .fill response parameters =>
    match Handler.injectArguments? response parameters arguments with
    | none => return none
    | some text => return some [← fillResponse message text]
  | .play clip _ =>
    if message.platform.features.soundboard then play clip
    return some []
  | .execute script => runScript handler.name script arguments
  | .manageCommands => manageCommands arguments
  | .manageGiveaway => manageGiveaway message arguments
  | .enterGiveaway => enterGiveaway message
  | .manageDictionary => manageDictionary message arguments
  | .manageSoundboard => manageSoundboard arguments

/-! ## Answering messages

A message that calls a command is answered by it; in any other message, words are explained.  When all is
done, the entrance sound of the user is played, which was looked up before.  A clip that the user plays
takes its place.
-/

structure Entrance where
  userId : String
  clip : Soundboard.Clip

/-- The entrance sound that is to be played for the sender of a message, unless it was played before. -/
def entranceOf (message : Message) : BotM (Option Entrance) := do
  if !message.platform.features.entranceSounds then return none
  match message.senderId with
  | none => return none
  | some id =>
    if (← get).greeted.contains id then return none
    match ← perform (Database.getEntranceSoundByTwitchUserId id) with
    | none => return none
    | some row => return some ⟨id, ⟨Soundboard.fileUrl row.filename, 1.0⟩⟩

def greet (entrance : Entrance) : BotM Unit := do
  modify fun bot =>
    { bot with greeted := if bot.greeted.contains entrance.userId then bot.greeted
        else bot.greeted ++ [entrance.userId] }
  play entrance.clip

def explain (message : Message) : BotM (List String) := do
  let bot ← get
  let (dictionary, explanations) :=
    bot.dictionary.explain message.platform bot.clock.monotonic message.text
  set { bot with dictionary }
  return explanations

def calledHandler? (bot : Bot) (message : Message) (command : Chat.Command) : Option Handler :=
  (Handler.lookup? bot.handlers command.name).filter fun h => message.level.covers h.level

def responsesTo (message : Message) : BotM (List String) := do
  match Chat.Command.ofMessage? message.text with
  | none => explain message
  | some command =>
    match calledHandler? (← get) message command with
    | none => return []
    | some handler =>
      let responses ← handle handler message command.arguments
      let explanations ← explain message
      match responses with
      | some texts => return texts ++ explanations
      | none => return ["Usages: " ++ Text.join ", " handler.usages]

def callsClip (bot : Bot) (message : Message) : Bool :=
  match Chat.Command.ofMessage? message.text with
  | none => false
  | some command => (calledHandler? bot message command).any Handler.isClip

def call? (bot : Bot) (message : Message) : Option (Handler × List String) :=
  (Chat.Command.ofMessage? message.text).bind fun command =>
    (calledHandler? bot message command).map fun handler => (handler, command.arguments)

def callsLong (bot : Bot) (message : Message) : Bool :=
  (bot.call? message).any fun (handler, arguments) =>
    match handler.action with
    | .execute script => takesLong script arguments bot
    | _ => false

/-- Answers a message and plays the entrance sound of its sender, even if answering fails. -/
def process (message : Message) (entrance : Option Entrance) (send : List String → BotM Unit) :
    BotM Unit := do
  let mayGreet := !callsClip (← get) message
  andFinally (do send (← responsesTo message)) do
    match entrance with
    | some entrance => if mayGreet then greet entrance
    | none => return ()

end StreamBot.Bot
