import StreamBot.Station.Chats

/-! # Watching streams

When the bot is in real use it subscribes to events of the streams that are announced and of its own channel.
Events are handled one after the other.  When a stream goes live its details may not be known at once; the
platform is then asked a few more times, with longer and longer pauses.
-/

namespace StreamBot.Station

open StreamBot.Bot (Happening LiveStream Notice)

/-! ## Subscriptions -/

def onWatch (f : Watch → Watch) : StationM Unit :=
  modify fun s => { s with watch := s.watch.map f }

def call (calls : List Live.Call) : StationM Unit :=
  modify fun s =>
    match s.watch with
    | none => s
    | some watch =>
      let (board, services) := watch.board.makeAll s.bot.services calls
      { s with watch := some { watch with board }, bot := { s.bot with services } }

/-- Brings the subscriptions in line with the streams that are to be watched. -/
def reconcile (starting : Bool) : StationM Unit := do
  let bot := (← get).bot
  let address := bot.config.eventsUrl ++ "/callback"
  let subscriptions := bot.services.subscriptions
  let survey := if bot.config.ignoreSubscriptions then Live.Survey.endingAll subscriptions
    else Live.Survey.ofSubscriptions starting address subscriptions
  call survey.calls
  let requested := (← onBot (Bot.perform Database.getLiveNotificationChannels)).map (·.broadcasterId)
  let own := (← onBot (Bot.usersByLogin [bot.config.channel])).head?.map (·.id)
  call (survey.changes own requested fun id => !(bot.services.usersById [id]).isEmpty)

def openWatch : StationM Unit := do
  let config := (← get).bot.config
  if config.stage = .production then
    modify fun s => { s with watch := some { board := { address := config.eventsUrl ++ "/callback" } } }
    call [.deliverTo config.eventsUrl config.eventsPort "0.0.0.0", .start config.eventsSecret false]
    reconcile true

/-- Closes the watch.  The subscriptions stay, but no more events are handled. -/
def closeWatch : StationM Unit := do
  call [.stop]
  onWatch fun w => { w with notices := [], lookup := none, isOpen := false }
  modify fun s => { s with alarms := s.alarms.filter (·.sleeper ≠ .lookup) }

def followChanges : StationM Unit := do
  let s ← get
  if s.watch.isSome ∧ s.bot.watchedChanged then
    set { s with bot := { s.bot with watchedChanged := false } }
    reconcile false

/-! ## Events -/

/-- How often the platform is asked for the details of a stream. -/
def lookupQuestions : Nat := 3

def streamLive (stream : LiveStream) : StationM Unit := do
  if let some row ← onBot (Bot.goLive stream) then announce row stream

/-- Asks for the details of a stream.  If it is not known to be live, it is asked for again later. -/
def lookUp (l : Lookup) : StationM Unit := do
  let services ← onBot (Bot.ask (.streams [l.stream.id]))
  match Dict.get? services.streams l.stream.id with
  | some details =>
    onWatch fun w => { w with lookup := none }
    streamLive { l.stream with
      title := details.title, game := details.game, thumbnailUrl := details.thumbnailUrl }
  | none =>
    sleep .lookup l.pause
    onWatch fun w => { w with lookup := some { l with
      questions := l.questions - 1, pause := l.pause * 2.0 } }

/-- Acts on an event.  The platform's own names of a broadcaster are preferred. -/
def act : Happening → StationM Unit
  | .raid raid => do
    match (← get).chatId with
    | some chatId => onBot (Bot.beRaided raid (transmit chatId))
    | none => return ()
  | .online id login name => do
    let stream : LiveStream := match (← onBot (Bot.usersById [id])).head? with
      | some user => { name := user.displayName, login := user.login, id }
      | none => { name, login, id }
    lookUp ⟨stream, lookupQuestions, 1.0⟩

/-- What an event sets off.  If that fails, the event is over. -/
def orGiveUp (x : StationM Unit) : StationM Unit := do
  try x catch _ => onWatch fun w => { w with lookup := none }

/-- Handles the next event, unless the stream of an earlier one is still looked up. -/
def handleNotice : StationM Unit := do
  match (← get).watch with
  | none => return ()
  | some watch =>
    match watch.isOpen, watch.lookup, watch.notices with
    | true, none, notice :: rest =>
      onWatch fun w => { w with notices := rest }
      if ← onBot (Bot.acknowledge notice) then orGiveUp (act notice.happening)
    | _, _, _ => return ()

/-- A stream is looked up again.  If the platform has been asked often enough, it is announced without any
details. -/
def resumeLookup : StationM Unit := do
  match (← get).watch.bind (·.lookup) with
  | none => return ()
  | some l =>
    orGiveUp do
      if l.questions = 0 then
        onWatch fun w => { w with lookup := none }
        streamLive l.stream
      else lookUp l

/-- An event arrives for a subscription.  It is heard if the bot knows the subscription. -/
def hearNotice (subscription : String) (notice : Notice) : StationM Bool := do
  match (← get).watch with
  | none => return false
  | some watch =>
    if watch.board.heard.contains subscription then
      if watch.isOpen then onWatch fun w => { w with notices := w.notices ++ [notice] }
      return true
    else return false

end StreamBot.Station
