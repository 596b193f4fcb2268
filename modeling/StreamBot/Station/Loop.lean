import StreamBot.Station.Watching

/-! # The station at work

Messages of the chats and messages that are sent again and again meet in one queue, from which they are taken
in order (`take`).  A message from a chat is first heard by the broadcasters and then answered on its own
(`finish`), while the queue goes on; an answer that takes long is put off until time has passed.  When the
messages that are sent again and again are read anew, all producers are stopped and others are started
(`restart`).

`settle` lets everybody go on until all wait, and `advance` lets time pass.  A failure in the queue or in what
the station was asked to do stops everything.
-/

namespace StreamBot.Station

/-! ## Producers -/

def messages (s : Station) : List Chat.Broadcaster := s.former.getD s.bot.broadcasters

def withMessages (s : Station) (messages : List Chat.Broadcaster) : Station :=
  match s.former with
  | some _ => { s with former := some messages }
  | none => { s with bot := { s.bot with broadcasters := messages } }

/-- A producer goes on: it sleeps until its message is due, sends it, and sleeps until it is due again.  It
stops if the text cannot be filled in. -/
def produce (index : Nat) : StationM Unit := do
  let s ← get
  match s.messages[index]? with
  | none => return ()
  | some b =>
    let wait := b.wait s.now
    if wait > 0.0 then sleep (.producer index) wait
    else
      set (s.withMessages (s.messages.set index b.sent))
      match ← attempt (Bot.fillText b.message) with
      | .ok text =>
        post (.broadcaster index) (.broadcast text)
        sleep (.producer index) (b.sent.wait s.now)
      | .error _ =>
        modify fun s => { s with producers := s.producers.map fun p =>
          if p.index = index then { p with failed := true } else p }
        post (.broadcaster index) .ended

def startProducers : StationM Unit := do
  let indices := List.range (← get).bot.broadcasters.length
  modify fun s => { s with producers := indices.map fun index => { index }, former := none }
  indices.forM produce

/-- Stops all producers and starts others.  It fails if one of them has failed before. -/
def restart : StationM Unit := do
  let s ← get
  if s.producers.any (·.failed) then throw .producerFailed
  let endings : List (Participant × Item) := s.producers.map fun p => (.broadcaster p.index, .ended)
  set { s with queue := s.queue ++ endings, alarms := s.alarms.filter fun a => a.sleeper = Sleeper.lookup }
  startProducers

def serve : Bot.Request → StationM Unit
  | .reloadBroadcasters => restart
  | .textChannels => refreshChannels

def serveNext : StationM Unit := do
  let s ← get
  match s.bot.requests with
  | [] => return ()
  | request :: rest =>
    set { s with bot := { s.bot with requests := rest } }
    serve request

/-- The bot reads its messages again.  The producers go on with the old ones until they are stopped. -/
def reload : StationM Unit := do
  modify fun s => { s with former := some s.messages }
  onBot Bot.reloadBroadcasters

/-! ## The queue -/

/-- A message from a chat: the broadcasters that are active hear it, and it will be answered.  The entrance
sound of its sender is looked up at once. -/
def receive (incoming : Incoming) : StationM Unit := do
  let entrance ← onBot (Bot.entranceOf incoming.message)
  let active := (← get).active
  onBot (Bot.hearMessage (fun i => active.contains (.broadcaster i)) incoming.message.text)
  modify fun s => { s with conversations := s.conversations ++ [{ incoming, entrance }] }

def sendBroadcast (text : String) : StationM Unit := do
  for platform in Chat.Platform.all do
    if (← get).active.contains (.chat platform) ∧ platform.features.broadcasts then
      onBot (sayLive (platform.prepared text))

def take : StationM Unit := do
  let s ← get
  match s.queue with
  | [] => return ()
  | (who, item) :: rest =>
    set { s with queue := rest }
    match item with
    | .said incoming => receive incoming
    | .broadcast text => sendBroadcast text
    | .ended => modify fun s => { s with active := s.active.filter (· ≠ who) }

/-- Answering a message takes long, and no time has passed since that was found. -/
def Conversation.goesOn (c : Conversation) (s : Station) : Bool :=
  match c.since with
  | some time => !(time < s.now)
  | none => s.bot.callsLong c.incoming.message

/-- Answers the first message that is not yet answered.  What fails there concerns nobody else.  If it takes long, the others
come first. -/
def finish : StationM Unit := do
  let s ← get
  match s.conversations with
  | [] => return ()
  | c :: rest =>
    if c.goesOn s then
      set { s with conversations := rest ++ [{ c with since := some (c.since.getD s.now) }] }
    else
      set { s with conversations := rest }
      let _ ← attempt (Bot.process c.incoming.message c.entrance (answer c.incoming))

/-! ## Going on -/

/-- A failure stops everything but the producers. -/
def collapse (fault : Bot.Fault) : StationM Unit := do
  closeWatch
  modify fun s => { s with status := .collapsed fault }

def whileRunning (x : StationM Unit) : Nat → StationM Unit
  | 0 => return ()
  | n + 1 => do
    if (← get).isRunning then
      try x catch fault => collapse fault
    whileRunning x n

def times (x : StationM Unit) : Nat → StationM Unit
  | 0 => return ()
  | n + 1 => do
    x
    times x n

def settle : StationM Unit := do
  whileRunning serveNext (← get).bot.requests.length
  whileRunning followChanges 1
  times handleNotice (((← get).watch.map (·.notices.length)).getD 0)
  whileRunning take (← get).queue.length
  times finish (← get).conversations.length

def wake : Sleeper → StationM Unit
  | .producer index => produce index
  | .lookup => resumeLookup

/-- The alarm that goes off next, if there is one until some time: the earliest, and of several at the same
time the one that was set first. -/
def nextAlarm? (alarms : List Alarm) (target : Float) : Option Alarm :=
  alarms.foldl (fun best a =>
    match best with
    | some b => if a.due < b.due then some a else best
    | none => if a.due ≤ target then some a else none) none

/-- Time passes until some time.  Whoever sleeps wakes when it is due. -/
def passTime : Nat → Float → StationM Unit
  | 0, target => modify fun s => { s with bot := { s.bot with clock := s.bot.clock.advanceTo target } }
  | fuel + 1, target => do
    match nextAlarm? (← get).alarms target with
    | none => passTime 0 target
    | some alarm =>
      modify fun s => { s with
        alarms := s.alarms.eraseP (·.due == alarm.due)
        bot := { s.bot with clock := s.bot.clock.advanceTo alarm.due } }
      wake alarm.sleeper
      settle
      passTime fuel target

/-- How often somebody can wake in some seconds.  A message is sent every second at most. -/
def wakings (sleepers : Nat) (seconds : Float) : Nat :=
  (sleepers + 4) * (2 * seconds.ceil.toUInt64.toNat + 8)

def advance (seconds : Float) : StationM Unit := do
  let s ← get
  passTime (wakings s.alarms.length seconds) (s.now + seconds)

/-! ## From the start to the end -/

def participants (s : Station) : List Participant :=
  Chat.Platform.all.map .chat ++ (List.range s.bot.broadcasters.length).map .broadcaster

def start : StationM Unit := do
  try
    openChat
    joinServer
    openWatch
    modify fun s => { s with status := .running, active := s.participants }
    startProducers
    settle
  catch fault => modify fun s => { s with status := .failed fault }

/-- Leaves the chats and stops watching.  Nothing is done from now on. -/
def leave : StationM Unit := do
  modify fun s => { s with bot := { s.bot with shuttingDown := true } }
  if (← get).isRunning then
    closeWatch
    modify fun s => { s with status := .left }

/-- The names of the channels in which the bot can write; none if the station does not answer. -/
def textChannels : StationM (Option (List String)) := do
  if (← get).isRunning then
    refreshChannels
    return some (Dict.keys (← get).channels)
  else return none

end StreamBot.Station
