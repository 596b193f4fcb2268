import StreamBot.Chat.Command
import StreamBot.Database.Tables
import StreamBot.Hash.Digest
import StreamBot.Text.Utf8

/-! # Messages that are sent again and again

Messages that are sent at the same interval are spread evenly over it.  Their order within the interval
hangs on their texts alone, so that it does not change when the rows are stored in another order.  A user who
asks for the message by a command puts it off.
-/

namespace StreamBot.Chat

open Database (Broadcast)

/-- A place in an interval that is divided into equal parts. -/
structure Slot where
  index : Nat
  count : Nat
  deriving Repr, DecidableEq

/-- The time from the beginning of an interval to a place in it, in some kind of numbers.  It is before the end of the
interval. -/
def Slot.phaseIn {α : Type} [OfScientific α] [Sub α] [Div α] [LT α] [DecidableLT α] (ofInt : Int → α) (s : Slot)
    (interval : Int) : α :=
  if s.count = 1 then 0.0
  else
    let share := ofInt (s.index * interval) / ofInt s.count
    let latest := ofInt interval - 1e-9
    let place := if share < latest then share else latest
    if 0.0 < place then place else 0.0

def Slot.phase (s : Slot) (interval : Int) : Float := s.phaseIn Float.ofInt interval

/-- A message with its interval in seconds and the time at which it is sent next. -/
structure Broadcaster where
  interval : Int
  message : String
  slot : Slot
  /-- The name of the command by which users ask for the message. -/
  alias? : Option String
  next : Float
  deriving Repr

namespace Broadcaster

/-- The text by which messages of the same interval are put into order. -/
def keyText (row : Broadcast) : String :=
  match row.aliasCommand with
  | some a => if a.isEmpty then row.message else a
  | none => row.message

def stableKey (row : Broadcast) : Nat × String :=
  let text := keyText row
  (Hash.ofBigEndian (Hash.Sha1.digest (Text.encodeUtf8 text)), text)

def keyPrecedes (a b : Nat × String) : Bool :=
  decide (a.1 < b.1) || (a.1 == b.1 && decide (a.2 ≤ b.2))

def ordered (rows : List Broadcast) : List Broadcast :=
  let keyed := rows.map fun row => (stableKey row, row)
  (keyed.mergeSort fun a b => keyPrecedes a.1 b.1).map (·.2)

/-- The message of a row, which is sent at its place in the interval for the first time. -/
def ofRow (now : Float) (row : Broadcast) (slot : Slot) : Broadcaster := {
  interval := row.intervalSeconds,
  message := row.message,
  slot,
  alias? := row.aliasCommand.map (Text.dropPrefix · "!"),
  next := now + slot.phase row.intervalSeconds }

def ofInterval (now : Float) (rows : List Broadcast) : List Broadcaster :=
  (ordered rows).zipIdx.map fun (row, i) => ofRow now row ⟨i, rows.length⟩

/-- All messages, by intervals in the order in which these first occur. -/
def ofRows (now : Float) (rows : List Broadcast) : List Broadcaster :=
  let intervals := (rows.map (·.intervalSeconds)).eraseDups
  intervals.flatMap fun interval => ofInterval now (rows.filter (·.intervalSeconds == interval))

def wait (b : Broadcaster) (now : Float) : Float := b.next - now

def sent (b : Broadcaster) : Broadcaster := { b with next := b.next + Float.ofInt b.interval }

/-- Somebody said something.  If it was the command of the message, that has been sent just now. -/
def hear (b : Broadcaster) (now : Float) (text : String) : Broadcaster :=
  match Command.ofMessage? text with
  | some command =>
    if some command.name == b.alias? && command.arguments.isEmpty then
      { b with next := now + Float.ofInt b.interval }
    else b
  | none => b

end Broadcaster
end StreamBot.Chat
