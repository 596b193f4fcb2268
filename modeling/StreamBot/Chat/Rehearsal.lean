import StreamBot.Chat.Message
import StreamBot.Live.Template
import StreamBot.Text.Printable

/-! # A chat without a network

A chat for rehearsals: somebody says a few things at intervals, and what the bot sends is written down.
-/

namespace StreamBot.Chat.Rehearsal

def platform : String := "MOCK"

def sender : String := "mock_user"

def messages : List String := (List.range 5).map fun i => s!"Mock message {i + 1}"

/-- The shortest and the longest time between two messages, in seconds. -/
def pauses : Float × Float := (0.1, 0.5)

def broadcasts : List String := (List.range 3).map fun i => s!"Mock broadcast message {i + 1}"

def broadcastPause : Float := 5.0

inductive Event where
  | response (text : String)
  | broadcast (text : String)
  | raidReaction (text : String)
  | shoutout (fromId toId : String)
  | liveNotification (template broadcaster : String)
  | heard (text : String)
  deriving Repr, DecidableEq

def Event.line : Event → String
  | .response text => "Mock response sent: " ++ text
  | .broadcast text => "Mock broadcast sent: " ++ text
  | .raidReaction text => "Mock raid reaction sent: " ++ text
  | .shoutout fromId toId =>
    s!"Mock shoutout sent: ShoutoutCommand(from_broadcaster_id={Text.quoted fromId}, " ++
      s!"to_broadcaster_id={Text.quoted toId})"
  | .liveNotification template broadcaster =>
    "Mock live notification posted: " ++ Live.announcement template broadcaster
  | .heard text => "MockBroadcaster received chat message: " ++ text

end StreamBot.Chat.Rehearsal
