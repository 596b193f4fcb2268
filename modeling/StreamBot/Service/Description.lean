import StreamBot.Service.World

/-! # The services described in JSON

What the services know can be described by an object with a field for each part of it.  A description that has
only some of the fields changes these.
-/

namespace StreamBot.Service

variable {α : Type}

def entriesOf (read : Json → α) (j : Json) : Dict String α :=
  (j.fields?.getD []).map fun (key, value) => (key, read value)

def textOf (j : Json) : String := j.text?.getD ""

def pairOf (j : Json) : String × String :=
  match j.texts?.getD [] with
  | a :: b :: _ => (a, b)
  | _ => ("", "")

def flagOr (default : Bool) (j : Json) (name : String) : Bool :=
  ((j.get? name).bind Json.bool?).getD default

def Page.ofJson : Json → Page
  | .str content => .text content
  | _ => .badStatus

def User.ofJson (j : Json) : User :=
  ⟨j.textAt "id", j.textAt "login", j.textAt "display_name", j.textAt "profile_image_url"⟩

def Stream.ofJson (j : Json) : Stream :=
  ⟨j.textAt? "title", j.textAt? "game_name", j.textAt? "thumbnail_url"⟩

def Subscription.ofJson (j : Json) : Subscription where
  id := j.textAt "id"
  topic := j.textAt "type"
  status := j.textAt "status"
  method := (j.getD "transport").textAt? "method"
  callback := (j.getD "transport").textAt? "callback"
  broadcasterId := (j.getD "condition").textAt? "broadcaster_user_id"

def Channel.ofJson (j : Json) : Channel where
  name := j.textAt "name"
  isText := flagOr true j "text"
  canView := flagOr true j "view"
  canSend := flagOr true j "send"
  failures := (j.intAt "failures").toNat

namespace World

def describe (w : World) (part : String) (j : Json) : World :=
  let texts := (j.items?.getD []).map textOf
  let flag := j.bool?.getD false
  match part with
  | "users" => { w with users := (j.items?.getD []).map User.ofJson }
  | "tokens" => { w with tokens := entriesOf textOf j }
  | "rejected" => { w with rejected := entriesOf textOf j }
  | "refreshed" => { w with refreshed := entriesOf pairOf j }
  | "codes" => { w with codes := entriesOf pairOf j }
  | "streams" => { w with streams := entriesOf Stream.ofJson j }
  | "subscriptions" => { w with subscriptions := (j.items?.getD []).map Subscription.ofJson }
  | "refuse_unsubscribe" => { w with refuseUnsubscribe := texts }
  | "refuse_listen" => { w with refuseListen := texts }
  | "channels" => { w with channels := (j.items?.getD []).map Channel.ofJson }
  | "urls" => { w with pages := entriesOf Page.ofJson j }
  | "down" => { w with down := flag }
  | "refuse_revoke" => { w with refuseRevoke := flag }
  | "mail_down" => { w with mailDown := flag }
  | "ready" => { w with ready := flag }
  | "moderated" => { w with moderated := entriesOf (fun ids => ids.texts?.getD []) j }
  | _ => w

/-- The services with all the parts described anew that an object has. -/
def describeAll (w : World) (j : Json) : World :=
  (j.fields?.getD []).foldl (fun w (part, value) => w.describe part value) w

end World
end StreamBot.Service
