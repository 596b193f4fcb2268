import StreamBot.Bot.Loading
import StreamBot.Bot.Platform
import StreamBot.Web.Request

/-! # The site

The state of the site is the bot, what the site remembers of the streaming platform, the logins that are
under way, and the files of the soundboard.
-/

namespace StreamBot

/-! ## Caches

A cache keeps values for some time, and only so many of them.  A value is gone as soon as its age reaches the
lifetime of the cache.  When a new value needs room, the one that was written first gives way.
-/

structure CacheEntry (α : Type) where
  key : String
  value : α
  expires : Float

structure Cache (α : Type) where
  lifetime : Float
  capacity : Nat
  entries : List (CacheEntry α) := []

namespace Cache

variable {α : Type}

def live (c : Cache α) (now : Float) : List (CacheEntry α) := c.entries.filter (now < ·.expires)

def get? (c : Cache α) (now : Float) (key : String) : Option α :=
  ((c.live now).find? (·.key == key)).map (·.value)

def set (c : Cache α) (now : Float) (key : String) (value : α) : Cache α :=
  let others := (c.live now).filter (·.key != key)
  let others := others.drop (others.length + 1 - c.capacity)
  { c with entries := others ++ [⟨key, value, now + c.lifetime⟩] }

end Cache

end StreamBot

namespace StreamBot.Web

/-! ## Logins that are under way

A user who logs in comes back from the streaming platform with a code and the state that they were sent off
with.  The browser may come back more than once with the same state.  The first request is the **owner** of
the login: it exchanges the code.  Those that come later are **followers**: they wait until the owner is done
and get what came of it.

A login has a number, so that requests that share it can be told from those of a later login with the same
state.
-/

structure Login where
  /-- When a new login with the same state may begin. -/
  expires : Float
  /-- The owner is done, and followers need not wait any longer. -/
  done : Bool := false
  token : Option String := none
  error : Option String := none
  deriving Repr

/-- All logins, and which of them a state belongs to. -/
structure Logins where
  records : List Login := []
  current : Dict String Nat := []
  deriving Repr

namespace Logins

def lifetime : Float := 600.0

def get? (ls : Logins) (n : Nat) : Option Login := ls.records[n]?

def isCurrent (ls : Logins) (now : Float) (n : Nat) : Bool := (ls.get? n).any fun l => now < l.expires

/-- A request comes back with a state: the number of its login, and whether the request owns it. -/
def enter (ls : Logins) (now : Float) (state : String) : (Nat × Bool) × Logins :=
  let current := ls.current.filter fun (_, n) => ls.isCurrent now n
  match Dict.get? current state with
  | some n => ((n, false), { ls with current })
  | none =>
    let n := ls.records.length
    ((n, true), ⟨ls.records ++ [{ expires := now + lifetime }], Dict.set current state n⟩)

def change (ls : Logins) (n : Nat) (f : Login → Login) : Logins :=
  { ls with records := ls.records.modify n f }

/-- The owner of a login came without the right cookie. -/
def refuse (ls : Logins) (n : Nat) : Logins :=
  ls.change n fun l => { l with error := some "OAuth state mismatch" }

def succeed (ls : Logins) (n : Nat) (token : String) : Logins :=
  ls.change n fun l => { l with token := some token, done := true }

def fail (ls : Logins) (n : Nat) (error : String) : Logins :=
  ls.change n fun l => { l with error := some error, done := true }

end Logins

/-! ## The state -/

structure Site where
  bot : Bot
  address : String
  zones : List String
  /-- The chat server answers when it is asked for its channels. -/
  channelsAnswered : Bool := true
  profileImages : Cache String := ⟨300.0, 1000, []⟩
  broadcasters : Cache Bool := ⟨300.0, 100, []⟩
  usersById : Cache Service.User := ⟨300.0, 100, []⟩
  usersByLogin : Cache Service.User := ⟨300.0, 100, []⟩
  logins : Logins := {}
  issued : Nat := 0
  clipFiles : List String := []

inductive Failure where
  | refused (status : Nat) (detail : String)
  | unprocessable
  | waits
  | fault (fault : Bot.Fault)

/-- A computation of the site.  What it has changed stays changed when it fails. -/
abbrev SiteM (α : Type) := ExceptT Failure (StateM Site) α

variable {α : Type}

def attempt (x : BotM α) : SiteM (Except Bot.Fault α) := fun site =>
  let (result, bot) := x site.bot
  (.ok result, { site with bot })

def onBot (x : BotM α) : SiteM α := do
  match ← attempt x with
  | .ok a => return a
  | .error fault => throw (.fault fault)

def perform (o : Database.Operation α) : SiteM α := onBot (Bot.perform o)

/-- A computation of the bot that may be refused a value or miss something; either is explained under a
status, if there is one. -/
def orRefuse (refusal absence : Option Nat) (x : BotM α) : SiteM α := do
  match ← attempt x with
  | .ok a => return a
  | .error fault =>
    match (if fault.isRefusal then refusal else none), (if fault.isAbsence then absence else none) with
    | some status, _ => throw (.refused status fault.message)
    | _, some status => throw (.refused status fault.message)
    | none, none => throw (.fault fault)

def refuse (status : Nat) (detail : String) : SiteM α := throw (.refused status detail)

def now : SiteM Float := return (← get).bot.clock.monotonic

def urlFor (path : String) : SiteM String := return (← get).address ++ path

def goTo (path : String) : SiteM Reply := return .seeOther (← urlFor path)

def nextIssue : SiteM Nat := modifyGet fun site => (site.issued + 1, { site with issued := site.issued + 1 })

/-- A number as hexadecimal digits, at least some of them. -/
def hexDigits (width n : Nat) : List Char :=
  let digits := Nat.toDigits 16 n
  List.replicate (width - digits.length) '0' ++ digits

def identifier (n : Nat) : String := String.ofList (hexDigits 32 n)

def hyphenated (n : Nat) : String :=
  let digits := hexDigits 32 n
  let slice (start length : Nat) : String := String.ofList ((digits.drop start).take length)
  Text.join "-" [slice 0 8, slice 8 4, slice 12 4, slice 16 4, slice 20 12]

/-! ## Values in a request

A field of a form that is empty counts as missing.  A value that is missing without a default, or that is
not what is expected, makes the request unprocessable.
-/

def Request.field? (r : Request) (name : String) : SiteM (Option String) := do
  if Dict.has r.files name then throw .unprocessable
  return (Dict.get? r.form name).filter (!·.isEmpty)

def Request.field (r : Request) (name : String) : SiteM String := do
  match ← r.field? name with
  | some value => return value
  | none => throw .unprocessable

def Request.fieldOr (r : Request) (name default : String) : SiteM String :=
  return (← r.field? name).getD default

def integer (text : String) : SiteM Int :=
  match Text.integer? text with
  | some n => return n
  | none => throw .unprocessable

def Request.integerField (r : Request) (name : String) : SiteM Int := do integer (← r.field name)

def Request.file (r : Request) (name : String) : SiteM Upload := do
  match Dict.get? r.files name with
  | some upload => return upload
  | none => throw .unprocessable

/-- The part of the address behind a question mark has a value that has to be there. -/
def Request.queryValue (r : Request) (name : String) : SiteM String := do
  match Dict.get? r.query name with
  | some value => return value
  | none => throw .unprocessable

end StreamBot.Web
