import StreamBot.Web.Request
import StreamBot.Web.Token

/-! # Replies as JSON -/

namespace StreamBot.Web

/-- A cookie.  A session token is shown by its claims. -/
def Cookie.toJson : Cookie → Json
  | .delete name path => .obj [("delete", .str name), ("path", .str path)]
  | .set name value maxAge path secure => .obj [
    ("set", .str name),
    ("value", if name = sessionCookie then (Token.claims? value).getD .null else .str value),
    ("max_age", .int maxAge), ("path", .str path), ("secure", .bool secure), ("httponly", .bool true),
    ("samesite", .str "lax")]

def Body.fields : Body → List (String × Json)
  | .empty => []
  | .page template context => [("template", .str template), ("context", .obj context)]
  | .redirect location => [("location", .str location)]
  | .data value => [("json", value)]
  | .stream pieces listeners => [
    ("chunks", Json.ofList Json.ofText? pieces), ("queues", .int listeners),
    ("type", .str "text/event-stream"), ("cache", .str "no-cache"), ("buffering", .str "no")]

def Reply.fields (r : Reply) : List (String × Json) :=
  ("status", .int r.status) :: r.body.fields ++
    if r.cookies.isEmpty then [] else [("cookies", Json.ofList Cookie.toJson r.cookies)]

end StreamBot.Web
