import StreamBot.Database.Tables
import StreamBot.Text.Case
import StreamBot.Text.Lines
import StreamBot.Text.Printable

/-! # Operations on the database

An operation is all or nothing: one that is refused leaves the tables as they were.  It has a name, so that
it can be told which operations are out of order.
-/

namespace StreamBot.Database

/-! ## What the database refuses -/

inductive RaidUser where
  | all
  | user (id : String)
  deriving Repr, DecidableEq

def RaidUser.column : RaidUser → Option String
  | .all => none
  | .user id => some id

def RaidUser.text : RaidUser → String
  | .all => "TwitchUserVariants.ALL_USERS"
  | .user id => id

inductive Subject where
  | setting (kind : SettingKind)
  | staticCommand (name : String)
  | parameterizedCommand (name : String)
  | soundboardCommand (name : String)
  | broadcast (id : Int)
  | broadcastWithId (id : Int)
  | constant (name : String)
  | dictionaryEntry (word : String)
  | translation (key : String)
  | script (command : String)
  | scriptStore (script store : String)
  | liveChannelOf (broadcaster : String)
  | liveChannelFor (broadcaster : String)
  | liveChannel (id : Int)
  | pendingClip (name : String)
  | pendingClipWithId (id : Int)
  | entranceSound (user : String)
  | cachedSource (url : String)
  | profile (user : String)
  | verificationToken (token : String)
  | notification (id : Int)
  | raidAction (user : RaidUser)
  deriving Repr, DecidableEq

def Subject.text : Subject → String
  | .setting kind => s!"Configuration setting '{kind.text}'"
  | .staticCommand name => s!"StaticCommand '{name}'"
  | .parameterizedCommand name => s!"ParameterizedCommand '{name}'"
  | .soundboardCommand name => s!"SoundboardCommand '{name}'"
  | .broadcast id => s!"Broadcast id {id}"
  | .broadcastWithId id => s!"Broadcast with id {id}"
  | .constant name => s!"Constant '{name}'"
  | .dictionaryEntry word => s!"DictionaryEntry '{word}'"
  | .translation key => s!"Translation '{key}'"
  | .script command => s!"Script command '{command}'"
  | .scriptStore owner store => s!"ScriptStore '{store}' for script '{owner}'"
  | .liveChannelOf broadcaster => s!"Live notification channel for broadcaster ID '{broadcaster}'"
  | .liveChannelFor broadcaster => s!"Live notification channel for broadcaster ID {broadcaster}"
  | .liveChannel id => s!"Live notification channel with id '{id}'"
  | .pendingClip name => s!"PendingSoundboardClip '{name}'"
  | .pendingClipWithId id => s!"PendingSoundboardClip with ID {id}"
  | .entranceSound user => s!"EntranceSound for Twitch user ID '{user}'"
  | .cachedSource url => s!"CachedSourceCode for URL '{url}'"
  | .profile user => s!"UserProfile with ID '{user}'"
  | .verificationToken token => s!"EmailVerificationToken with token '{token}'"
  | .notification id => s!"Notification with ID '{id}'"
  | .raidAction user => s!"RaidEventAction for Twitch user ID '{user.text}'"

inductive Fault where
  | alreadyExists (subject : Subject)
  | notFound (subject : Subject)
  | ambiguous
  /-- A key that is not unique, or a reference to a row that does not exist. -/
  | constraint
  | volumeRange
  deriving Repr, DecidableEq

/-- Whether the text about a row that is already there ends with a full stop. -/
def Subject.stopped : Subject → Bool
  | .liveChannelOf _ => true
  | _ => false

def Fault.message : Fault → String
  | .alreadyExists subject => subject.text ++ " already exists" ++ if subject.stopped then "." else ""
  | .notFound subject => Text.quoted (subject.text ++ " not found")
  | .ambiguous => ""
  | .constraint => ""
  | .volumeRange => "Volume must be between 0.0 and 1.0"

/-! ## Texts as keys of numbered rows

A row with a number for a key is found by a text if the text is a number with the same value: blanks around
it, a fraction of zeros and an exponent do not matter.
-/

def isSpace (c : Char) : Bool := c == ' ' || (decide ('\t' ≤ c) && decide (c ≤ '\r'))

def trimSpaces (cs : List Char) : List Char :=
  ((cs.dropWhile isSpace).reverse.dropWhile isSpace).reverse

def signed : List Char → Bool × List Char
  | '-' :: rest => (true, rest)
  | '+' :: rest => (false, rest)
  | cs => (false, cs)

/-- The exponent at the end of a number; none if what is there is not an exponent. -/
def exponent? : List Char → Option Int
  | [] => some 0
  | c :: rest =>
    let (negative, digits) := signed rest
    if (c == 'e' || c == 'E') && !digits.isEmpty && digits.all Char.isDigit then
      some (if negative then -(Nat.ofDigitChars 10 digits 0 : Int) else Nat.ofDigitChars 10 digits 0)
    else none

def powerOfTen (n : Nat) : Nat := Nat.pow 10 n

/-- An integer times a power of ten, if it is an integer. -/
def scaled? (n : Int) (exponent : Int) : Option Int :=
  if n = 0 then some 0
  else if 0 ≤ exponent then
    if exponent ≤ 20 then some (n * powerOfTen exponent.toNat) else none
  else if n % powerOfTen (min (-exponent).toNat 400) = 0 then
    if (-exponent).toNat ≤ 400 then some (n / powerOfTen (-exponent).toNat) else none
  else none

def keyNumber? (s : String) : Option Int := do
  let (negative, cs) := signed (trimSpaces s.toList)
  let whole := cs.takeWhile Char.isDigit
  let rest := cs.drop whole.length
  let (fraction, rest) :=
    match rest with
    | '.' :: rest =>
      let fraction := rest.takeWhile Char.isDigit
      (fraction, rest.drop fraction.length)
    | rest => ([], rest)
  if whole.isEmpty && fraction.isEmpty then none
  let exponent ← exponent? rest
  let n : Int := Nat.ofDigitChars 10 (whole ++ fraction) 0
  scaled? (if negative then -n else n) (exponent - fraction.length)

/-! ## Operations -/

abbrev Transaction (α : Type) := StateT Database (Except Fault) α

structure Operation (α : Type) where
  name : String
  action : Transaction α

def Operation.run {α : Type} (o : Operation α) (db : Database) : Except Fault (α × Database) :=
  o.action.run db

def Operation.map {α β : Type} (o : Operation α) (f : α → β) : Operation β := ⟨o.name, f <$> o.action⟩

variable {α : Type}

def only? (fits : α → Bool) (rows : List α) : Transaction (Option α) :=
  match rows.filter fits with
  | [] => pure none
  | [row] => pure (some row)
  | _ => throw .ambiguous

def refuseExisting (subject : Subject) (row : Option α) : Transaction Unit :=
  match row with
  | some _ => throw (.alreadyExists subject)
  | none => pure ()

def requireFound (subject : Subject) (row : Option α) : Transaction α :=
  match row with
  | some row => pure row
  | none => throw (.notFound subject)

def nextId (id : α → Int) (rows : List α) : Int := rows.foldl (fun n row => max n (id row)) 0 + 1

def change (fits : α → Bool) (f : α → α) (rows : List α) : List α :=
  rows.map fun row => if fits row then f row else row

/-- A name in a row is the one looked for without regard to case.  The database ignores case for ASCII
letters only, while the name that is looked for is put into lower case as a whole. -/
def sameName (stored wanted : String) : Bool := Text.lowerAscii stored == Text.lower wanted

end StreamBot.Database
