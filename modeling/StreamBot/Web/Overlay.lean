import StreamBot.Web.Site

/-! # Listening to the soundboard

A client that listens gets an event for each clip, and a sign of life when there is none for a while.  The
stream ends when the client goes away, when the site shuts down, or when the reader is stopped.
-/

namespace StreamBot.Web

def keepAlive : String := ": keep-alive\r\n\r\n"

inductive Listening where
  | notStarted
  | started (id : Nat)
  | ended
  deriving Repr, DecidableEq

/-- The number of the listener; it begins to listen if it has not done so yet. -/
def startListening (s : Listening) : SiteM (Option Nat) := do
  match s with
  | .started id => return some id
  | .ended => return none
  | .notStarted =>
    let id ← nextIssue
    modify fun site => { site with bot := { site.bot with
      listeners := site.bot.listeners ++ [⟨id, []⟩] } }
    return some id

def stopListening (id : Nat) : SiteM Unit :=
  modify fun site => { site with bot := { site.bot with
    listeners := site.bot.listeners.filter (·.id != id) } }

def takeClip (id : Nat) : SiteM (Option Soundboard.Clip) := modifyGet fun site =>
  let clip := (site.bot.listeners.find? (·.id == id)).bind (·.clips.head?)
  let listeners := site.bot.listeners.map fun l =>
    if l.id == id then { l with clips := l.clips.drop 1 } else l
  (clip, { site with bot := { site.bot with listeners } })

/-- The next piece of a stream while something happens; none if the stream has ended. -/
def nextPiece (s : Listening) (happening : Happening) : SiteM (Option String × Listening) := do
  if let .shutdown := happening then
    modify fun site => { site with bot := { site.bot with shuttingDown := true } }
  match ← startListening s with
  | none => return (none, .ended)
  | some id =>
    let stop : SiteM (Option String × Listening) := do
      stopListening id
      return (none, .ended)
    if (← get).bot.shuttingDown then return ← stop
    match happening with
    | .disconnect | .cancel | .shutdown => stop
    | .idle => return (some keepAlive, .started id)
    | .clip clip =>
      onBot (Bot.play clip)
      match ← takeClip id with
      | some clip => return (some clip.event, .started id)
      | none => return (some keepAlive, .started id)

/-- The pieces of a stream, one for each thing that happens. -/
def listen (s : Listening) : List Happening → SiteM (List (Option String) × Listening)
  | [] => return ([], s)
  | happening :: rest => do
    let (piece, s) ← nextPiece s happening
    let (pieces, s) ← listen s rest
    return (piece :: pieces, s)

/-- A client listens to the soundboard until it has enough. -/
def overlayEvents (happenings : List Happening) : SiteM Reply := do
  let (pieces, s) ← listen .notStarted happenings
  if let .started id := s then stopListening id
  return ⟨200, .stream pieces (← get).bot.listeners.length, []⟩

end StreamBot.Web
