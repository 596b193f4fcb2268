import StreamBot.Chat.Message

/-! # Giveaways

A giveaway is started, users enter while it runs, and once it has ended winners are picked one after the
other.  A winner is no longer in the game, so nobody wins twice.
-/

namespace StreamBot.Chat

structure Participant where
  name : String
  platform : Platform
  deriving Repr, DecidableEq

namespace Giveaway

inductive Phase where
  | idle
  | running
  | ended
  deriving Repr, DecidableEq

end Giveaway

structure Giveaway where
  phase : Giveaway.Phase := .idle
  participants : List Participant := []
  deriving Repr, DecidableEq

namespace Giveaway

def enterCommand : String := "enter"

inductive Reply where
  | notRunning
  | alreadyEntered
  | entered (name : String)
  | alreadyRunning
  | started
  | cannotEnd
  | finished
  | stillRunning
  | nothingToPick
  | nobodyLeft
  | winner (name : String)
  deriving Repr, DecidableEq

/-- What the bot says; nothing to a user who has already entered. -/
def Reply.texts : Reply → List String
  | .notRunning => ["No giveaway is currently running."]
  | .alreadyEntered => []
  | .entered name => [name ++ " has entered the giveaway!"]
  | .alreadyRunning => ["A giveaway is already running. Please end it before starting a new one."]
  | .started => ["A new giveaway has started! Type `!" ++ enterCommand ++ "` to participate."]
  | .cannotEnd => ["Cannot end giveaway: No giveaway is currently running."]
  | .finished => ["The giveaway has ended! No more entries will be accepted."]
  | .stillRunning => ["Cannot pick a winner: The giveaway is still running."]
  | .nothingToPick => ["Cannot pick a winner: No giveaway is currently running."]
  | .nobodyLeft => ["No participants have entered the giveaway yet or there is no one left to pick."]
  | .winner name => ["The winner of the giveaway is: " ++ name ++ "!"]

def enter (g : Giveaway) (p : Participant) : Giveaway × Reply :=
  match g.phase with
  | .running =>
    if g.participants.contains p then (g, .alreadyEntered)
    else ({ g with participants := g.participants ++ [p] }, .entered p.name)
  | _ => (g, .notRunning)

def start (g : Giveaway) : Giveaway × Reply :=
  match g.phase with
  | .running => (g, .alreadyRunning)
  | _ => (⟨.running, []⟩, .started)

def stop (g : Giveaway) : Giveaway × Reply :=
  match g.phase with
  | .running => ({ g with phase := .ended }, .finished)
  | _ => (g, .cannotEnd)

/-- An order of participants, so that chance can choose one of them by a number. -/
def precedes (a b : Participant) : Bool :=
  decide (a.name < b.name) || (a.name == b.name && decide (a.platform.name ≤ b.platform.name))

/-- The participant whom chance chooses, counted from the first one on. -/
def chosen? (chance : Nat) (participants : List Participant) : Option Participant :=
  (participants.mergeSort precedes)[chance % participants.length]?

def pick (chance : Nat) (g : Giveaway) : Giveaway × Reply :=
  match g.phase with
  | .running => (g, .stillRunning)
  | .idle => (g, .nothingToPick)
  | .ended =>
    match chosen? chance g.participants with
    | none => (g, .nobodyLeft)
    | some p => ({ g with participants := g.participants.erase p }, .winner p.name)

end Giveaway
end StreamBot.Chat
