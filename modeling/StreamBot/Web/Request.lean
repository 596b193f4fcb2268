import StreamBot.Dict
import StreamBot.Soundboard.Clip

/-! # Requests and replies -/

namespace StreamBot.Web

inductive Method where
  | get
  | post
  deriving Repr, DecidableEq

structure Upload where
  filename : String
  /-- The bytes, or why they cannot be read. -/
  content : Except String (List UInt8)

inductive Happening where
  | idle
  | clip (clip : Soundboard.Clip)
  | disconnect
  | shutdown
  | cancel

structure Request where
  method : Method
  path : String
  query : Dict String String := []
  form : Dict String String := []
  files : Dict String Upload := []
  body : Option Json := none
  cookies : Dict String String := []
  happenings : List Happening := []

inductive Cookie where
  | set (name value : String) (maxAge : Int) (path : String) (secure : Bool)
  | delete (name path : String)
  deriving Repr, DecidableEq

inductive Body where
  | empty
  | page (template : String) (context : List (String × Json))
  | redirect (location : String)
  | data (value : Json)
  /-- Events for a listener: one piece for each thing that happened, none when the stream has ended, and the
  number of listeners that are left. -/
  | stream (pieces : List (Option String)) (listeners : Nat)

structure Reply where
  status : Nat
  body : Body := .empty
  cookies : List Cookie := []

namespace Reply

def page (template : String) (context : List (String × Json)) : Reply := ⟨200, .page template context, []⟩

def seeOther (location : String) : Reply := ⟨303, .redirect location, []⟩

def done : Reply := ⟨200, .empty, []⟩

end Reply

def sessionCookie : String := "session"

def stateCookie : String := "twitch_oauth_state"

def loginPath : String := "/auth/twitch"

end StreamBot.Web
