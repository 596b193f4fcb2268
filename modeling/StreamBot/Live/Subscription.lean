import StreamBot.Service.World

/-! # Subscriptions to events

The streaming platform tells the bot when a stream goes live and when the channel is raided, if the bot has
subscribed to that.  Subscriptions outlive the bot, so it first looks over those that are there (`Survey.see`).
It ends those that are broken or superfluous and takes over the others.  Then it subscribes to what is missing
and ends what is no longer wanted (`Survey.changes`).  Subscriptions that deliver elsewhere are left alone.
-/

namespace StreamBot.Live

open Service (Subscription World)

inductive Topic where
  | online
  | raid
  deriving Repr, DecidableEq

namespace Topic

def name : Topic → String
  | .online => "stream.online"
  | .raid => "channel.raid"

def eventName : Topic → String
  | .online => "StreamOnlineEvent"
  | .raid => "ChannelRaidEvent"

end Topic

inductive Call where
  | deliverTo (url : String) (port : Int) (host : String)
  /-- From now on, events are signed with a secret. -/
  | start (secret : String) (endsAll : Bool)
  | stop
  | listen (topic : Topic) (userId : String)
  | unsubscribe (id : String)
  | adopt (id : String) (topic : Topic)
  | activate (id : String)
  deriving Repr, DecidableEq

namespace Call

def toJson : Call → Json
  | .deliverTo url port host => .arr [.str "open", .str url, .int port, .str host]
  | .start secret endsAll => .arr [.str "start", .str secret, .bool endsAll]
  | .stop => Json.ofTexts ["stop"]
  | .listen topic userId => Json.ofTexts ["listen", topic.name, userId]
  | .unsubscribe id => Json.ofTexts ["unsubscribe", id]
  | .adopt id topic => Json.ofTexts ["adopt", id, topic.eventName]
  | .activate id => Json.ofTexts ["activate", id]

def key : Call → List String
  | .deliverTo url port host => ["open", url, toString port, host]
  | .start secret _ => ["start", secret]
  | .stop => ["stop"]
  | .listen topic userId => ["listen", topic.name, userId]
  | .unsubscribe id => ["unsubscribe", id]
  | .adopt id topic => ["adopt", id, topic.eventName]
  | .activate id => ["activate", id]

end Call

/-! ## Looking over the subscriptions -/

/-- What a look at some subscriptions has shown, and what is to be done about them. -/
structure Survey where
  /-- The broadcasters whose streams are watched, each with the subscription for it. -/
  watched : List (String × String) := []
  raidsWatched : Bool := false
  calls : List Call := []
  deriving Repr, DecidableEq

def deliversTo (address : String) (s : Subscription) : Bool :=
  s.method == some "webhook" && s.callback == some address

def takeOver (starting : Bool) (id : String) (topic : Topic) : List Call :=
  if starting then [.adopt id topic, .activate id] else []

namespace Survey

def watches (v : Survey) (broadcasterId : String) : Bool := v.watched.any (·.1 == broadcasterId)

/-- Looks at one more subscription.  One that is not enabled and a second one for the same broadcaster are
ended. -/
def see (starting : Bool) (address : String) (v : Survey) (s : Subscription) : Survey :=
  if !deliversTo address s then v
  else if s.status ≠ "enabled" then { v with calls := v.calls ++ [.unsubscribe s.id] }
  else if s.topic = Topic.online.name then
    match s.broadcasterId with
    | none => v
    | some broadcasterId =>
      if v.watches broadcasterId then { v with calls := v.calls ++ [.unsubscribe s.id] }
      else { v with
        watched := v.watched ++ [(broadcasterId, s.id)]
        calls := v.calls ++ takeOver starting s.id .online }
  else if s.topic = Topic.raid.name then
    { v with raidsWatched := true, calls := v.calls ++ takeOver starting s.id .raid }
  else v

def ofSubscriptions (starting : Bool) (address : String) (subscriptions : List Subscription) : Survey :=
  subscriptions.foldl (see starting address) {}

/-- All subscriptions are ended, so that none of them counts. -/
def endingAll (subscriptions : List Subscription) : Survey :=
  { calls := subscriptions.map fun s => .unsubscribe s.id }

/-- What is still to be done so that the right streams are watched: those of some broadcasters and of the own
channel, whose raids are watched as well.  Users that do not exist cannot be watched. -/
def changes (v : Survey) (own : Option String) (requested : List String) (known : String → Bool) : List Call :=
  let wanted := (requested ++ own.toList).eraseDups
  let raids := if v.raidsWatched then [] else own.toList.map (Call.listen .raid)
  let superfluous := v.watched.filter fun (broadcasterId, _) => !wanted.contains broadcasterId
  let missing := wanted.filter fun id => !v.watches id && (own == some id || known id)
  raids ++ superfluous.map (fun (_, id) => .unsubscribe id) ++ missing.map (.listen .online)

end Survey

/-! ## The service -/

structure Switchboard where
  address : String
  heard : List String := []
  calls : List Call := []
  deriving Repr, DecidableEq

def newSubscription (address : String) (topic : Topic) (userId : String) : Subscription where
  id := topic.name ++ "-" ++ userId
  topic := topic.name
  status := "enabled"
  method := some "webhook"
  callback := some address
  broadcasterId := if topic = .online then some userId else none

/-- Makes a call.  What is refused changes nothing. -/
def Switchboard.make (b : Switchboard) (w : World) (call : Call) : Switchboard × World :=
  let b := { b with calls := b.calls ++ [call] }
  match call with
  | .listen topic userId =>
    if w.refuseListen.contains userId then (b, w)
    else
      let s := newSubscription b.address topic userId
      ({ b with heard := b.heard ++ [s.id] }, { w with subscriptions := w.subscriptions ++ [s] })
  | .unsubscribe id =>
    if w.refuseUnsubscribe.contains id then (b, w)
    else ({ b with heard := b.heard.filter (· ≠ id) },
      { w with subscriptions := w.subscriptions.filter (·.id ≠ id) })
  | .adopt id _ => ({ b with heard := b.heard ++ [id] }, w)
  | .deliverTo .. | .start .. | .stop | .activate _ => (b, w)

def Switchboard.makeAll (b : Switchboard) (w : World) (calls : List Call) : Switchboard × World :=
  calls.foldl (fun (b, w) call => b.make w call) (b, w)

end StreamBot.Live
