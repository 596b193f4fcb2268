import StreamBot.Bot.State

/-! # Broadcasts and their texts -/

namespace StreamBot.Bot

/-! ## Placeholders in texts that the bot sends

A text can have placeholders for the user who is answered, for the time and the date, and for constants.
-/

def fillTimes (text : String) : BotM String := do
  let _ ← settingOr .timezone "UTC"
  let style := Time.Style.ofLocale (← settingOr .locale "en_US.UTF-8")
  let now := (← get).clock.now.date
  let text := Text.replace text (Chat.placeholder "CURRENT_TIME") (style.time now)
  return Text.replace text (Chat.placeholder "CURRENT_DATE") (style.date now)

def fillText (text : String) : BotM String := do
  let text ← fillTimes text
  return Chat.fillConstants (← constants) text

def fillResponse (message : Chat.Message) (text : String) : BotM String := do
  let constants ← constants
  let text ← fillTimes (Text.replace text (Chat.placeholder "SENDER_NAME") message.sender)
  return Chat.fillConstants constants text

/-! ## Sending messages again and again -/

def changeBroadcaster (index : Nat) (f : Chat.Broadcaster → Chat.Broadcaster) : BotM Unit :=
  modify fun bot => { bot with broadcasters := bot.broadcasters.modify index f }

/-- Sends a message: its text with everything filled in.  It is sent again an interval later. -/
def broadcast (index : Nat) : BotM (Option String) := do
  match (← get).broadcasters[index]? with
  | none => return none
  | some b =>
    changeBroadcaster index Chat.Broadcaster.sent
    some <$> fillText b.message

def hearMessage (awake : Nat → Bool) (text : String) : BotM Unit :=
  modify fun bot =>
    { bot with broadcasters := bot.broadcasters.mapIdx fun i b =>
        if awake i then b.hear bot.clock.monotonic text else b }

end StreamBot.Bot
