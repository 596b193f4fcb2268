import StreamBot.Dict
import StreamBot.Json.Basic
import StreamBot.Text.Case

/-! # The services that the bot talks to

The streaming platform knows users, streams and the events that somebody subscribed to; the chat server has
channels; the web has pages; and there is a mail server.  What they know and how they answer can change at
any time.
-/

namespace StreamBot.Service

inductive Page where
  | text (content : String)
  | badStatus
  deriving Repr, DecidableEq

structure User where
  id : String
  login : String
  displayName : String
  imageUrl : String
  deriving Repr, DecidableEq

structure Stream where
  title : Option String
  game : Option String
  thumbnailUrl : Option String
  deriving Repr, DecidableEq

structure Subscription where
  id : String
  topic : String
  status : String
  /-- How events are delivered: the method, and the address if there is one. -/
  method : Option String
  callback : Option String
  broadcasterId : Option String
  deriving Repr, DecidableEq

structure Channel where
  name : String
  isText : Bool := true
  canView : Bool := true
  canSend : Bool := true
  /-- How many messages fail before one is accepted. -/
  failures : Nat := 0
  deriving Repr, DecidableEq

namespace Channel

def isWritable (c : Channel) : Bool := c.isText && c.canView && c.canSend

/-- A message is sent to the channel: whether it is accepted, and the channel afterwards. -/
def accept (c : Channel) : Bool × Channel :=
  if c.failures = 0 then (true, c) else (false, { c with failures := c.failures - 1 })

def refusal : String := "no permission"

end Channel

structure World where
  users : List User := []
  tokens : Dict String String := []
  rejected : Dict String String := []
  /-- Access tokens that are replaced when they are used: the new access token and the new refresh token. -/
  refreshed : Dict String (String × String) := []
  codes : Dict String (String × String) := []
  /-- The live streams, by the identifier or the login of their broadcaster. -/
  streams : Dict String Stream := []
  subscriptions : List Subscription := []
  refuseUnsubscribe : List String := []
  refuseListen : List String := []
  channels : List Channel := []
  /-- The pages of the web; other addresses cannot be reached. -/
  pages : Dict String Page := []
  /-- The streaming platform answers no questions. -/
  down : Bool := false
  refuseRevoke : Bool := false
  mailDown : Bool := false
  ready : Bool := true
  moderated : Dict String (List String) := []

namespace World

def usersById (w : World) (ids : List String) : List User := w.users.filter (ids.contains ·.id)

def usersByLogin (w : World) (logins : List String) : List User :=
  let logins := logins.map Text.lower
  w.users.filter fun u => logins.contains (Text.lower u.login)

def userOf? (w : World) (token : String) : Option User := do
  (w.usersById [← Dict.get? w.tokens token]).head?

/-- The channels in which the bot can write, by their names.  Of several with the same name the last one
counts. -/
def writableChannels (w : World) : Dict String Channel :=
  (w.channels.filter (·.isWritable)).foldl (fun known c => Dict.set known c.name c) []

end World

/-! ## What the services were told

Each call to a service is written down, in order, so that it can be seen afterwards what was asked and what
was sent.
-/

open Json

structure Embed where
  title : String
  url : String
  description : Option String
  facts : List (String × String)
  imageUrl : Option String
  deriving Repr, DecidableEq

structure LinkButton where
  label : String
  url : String
  deriving Repr, DecidableEq

inductive Entry where
  | userOf (token : String)
  | usersById (ids : List String)
  | usersByLogin (logins : List String)
  | moderatedBy (id : String)
  | streams (keys : List String)
  | authenticate (code : Option String)
  | revoke (token : String)
  | chatStart
  | chatJoin (channel : String)
  | chatMessage (channel text : String)
  | shoutout (fromId toId moderatorId : String)
  | serverStart (token : String)
  | serverMessage (channel text : String) (extra : Option (Embed × List LinkButton))
  | page (url : String)
  deriving Repr, DecidableEq

def Embed.toJson (e : Embed) : Json := .obj [
  ("title", .str e.title), ("url", .str e.url), ("description", ofText? e.description),
  ("fields", ofList (fun (name, value) => .arr [.str name, .str value, .bool true]) e.facts),
  ("image", ofText? e.imageUrl)]

def LinkButton.toJson (b : LinkButton) : Json :=
  .obj [("label", .str b.label), ("style", .str "link"), ("url", .str b.url)]

def Entry.toJson (e : Entry) : Json :=
  match e with
  | .userOf token => ofTexts ["twitch", "get_users", token]
  | .usersById ids => .arr [.str "twitch", .str "get_users", .str "ids", ofTexts ids]
  | .usersByLogin logins => .arr [.str "twitch", .str "get_users", .str "logins", ofTexts logins]
  | .moderatedBy id => ofTexts ["twitch", "get_moderated_channels", id]
  | .streams keys => ofTexts (["twitch", "get_streams"] ++ keys)
  | .authenticate code => .arr [.str "twitch", .str "authenticate", ofText? code]
  | .revoke token => ofTexts ["twitch", "revoke", token]
  | .chatStart => ofTexts ["twitch", "start"]
  | .chatJoin channel => ofTexts ["twitch", "join", channel]
  | .chatMessage channel text => ofTexts ["twitch", "message", channel, text]
  | .shoutout fromId toId moderatorId => ofTexts ["twitch", "shoutout", fromId, toId, moderatorId]
  | .serverStart token => ofTexts ["discord", "start", token]
  | .serverMessage channel text extra =>
    let more := match extra with
      | some (embed, buttons) => [embed.toJson, ofList LinkButton.toJson buttons]
      | none => []
    .arr ([.str "discord", .str "message", .str channel, .str text] ++ more)
  | .page url => ofTexts ["http", "get", url]

end StreamBot.Service
