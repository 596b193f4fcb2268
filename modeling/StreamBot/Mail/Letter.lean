import StreamBot.Json.Basic
import StreamBot.Text.Case
import StreamBot.Text.Lines

/-! # The mail server

Where mail is handed in, and how the connection to it is protected.
-/

namespace StreamBot.Mail

inductive Protection where
  | none
  | tls
  | ssl
  deriving Repr, DecidableEq

def Protection.ofText? (s : String) : Option Protection :=
  match Text.lower (Text.strip s) with
  | "" => some .none
  | "tls" => some .tls
  | "ssl" => some .ssl
  | _ => Option.none

structure Server where
  host : String
  port : Int
  username : String
  password : String
  protection : Protection
  sender : String
  deriving Repr

/-! ## Letters

The letters that the bot writes.  What is filled in is escaped as in a page, and the text of a letter ends
with a line end.
-/

structure Letter where
  recipient : String
  subject : String
  text : String
  deriving Repr, DecidableEq

structure Delivery where
  server : Server
  letter : Letter
  deriving Repr

def escapedChar (c : Char) : List Char :=
  if c == '&' then "&amp;".toList
  else if c == '<' then "&lt;".toList
  else if c == '>' then "&gt;".toList
  else if c == '"' then "&#34;".toList
  else if c == '\'' then "&#39;".toList
  else [c]

def escaped (s : String) : String := String.ofList (s.toList.flatMap escapedChar)

def body (text : String) : String :=
  let text := String.ofList (Text.unifyLineEnds text.toList)
  if Text.endsWith text "\n" then text else text ++ "\n"

/-- A line of a letter's head, which must be a single one. -/
def isOneLine (s : String) : Bool := (Text.lines s.toList).length ≤ 1

def Delivery.isWellFormed (d : Delivery) : Bool :=
  isOneLine d.server.sender && isOneLine d.letter.recipient && isOneLine d.letter.subject

def Server.greeting (s : Server) : List Json :=
  let login := Json.ofTexts ["login", s.username, s.password]
  let steps := match s.protection with
    | .ssl => []
    | .tls => ["ehlo", "starttls", "ehlo"]
    | .none => ["ehlo"]
  let kind := if s.protection = .ssl then "ssl" else "plain"
  [.str kind, .str s.host, .int s.port] ++ steps.map .str ++ login.items?.getD []

def Delivery.toJson (d : Delivery) : Json := .obj [
  ("via", .arr d.server.greeting), ("from", .str d.server.sender), ("to", .str d.letter.recipient),
  ("subject", .str d.letter.subject), ("text", .str d.letter.text)]

/-! ## What letters and notifications say -/

def closing (botName : String) : String := "\n\nBest regards,\n" ++ escaped botName

def reasonText (reason : Option String) : String :=
  match reason with
  | some reason => if reason.isEmpty then "" else "\nReason: " ++ escaped reason ++ "\n"
  | none => ""

def newClipText (channel uploader uploaderId command dashboard botName : String) : String :=
  "Hello " ++ escaped channel ++ ",\n\nthe Twitch user " ++ escaped uploader ++ " (user ID " ++
    escaped uploaderId ++ ") has just uploaded a new clip with the suggested command name \"!" ++
    escaped command ++ "\". Visit " ++ escaped dashboard ++
    " to review and approve or reject the clip." ++ closing botName

def verificationText (user link botName : String) : String :=
  "Hello " ++ escaped user ++
    ",\n\nyou have entered this email address to receive notifications from our service. Please " ++
    "verify your email address by opening the link below:\n\n" ++ escaped link ++
    "\n\nIf you did not request this, please ignore this email." ++ closing botName

def approvalText (suggested approved : String) : String :=
  "our clip with the suggested command “" ++ escaped suggested ++
    "” has been approved! It is now available under the command “" ++ escaped approved ++ "”."

def rejectionText (suggested : String) (reason : Option String) : String :=
  "our clip with the suggested command “" ++ escaped suggested ++ "” has been rejected.\n" ++
    reasonText reason

def approvalLetter (user suggested approved botName : String) : String :=
  "Hello " ++ escaped user ++ ",\n\ny" ++ approvalText suggested approved ++ closing botName

def rejectionLetter (user suggested : String) (reason : Option String) (botName : String) : String :=
  "Hello " ++ escaped user ++ ",\n\ny" ++ rejectionText suggested reason ++ closing botName

def approvalNotification (suggested approved : String) : String :=
  "Y" ++ approvalText suggested approved

def rejectionNotification (suggested : String) (reason : Option String) : String :=
  "Y" ++ rejectionText suggested reason

end StreamBot.Mail
