import StreamBot.Hash.Digest
import StreamBot.Json.Printer
import StreamBot.Json.Reader
import StreamBot.Text.Utf8
import StreamBot.Time.Calendar

/-! # Session tokens

A session token holds claims about a user, and a signature that only the site can make.  It is three texts
with points between them: how it is signed, the claims, and the signature of the two.
-/

namespace StreamBot.Web.Token

open Hash

def algorithm : String := "HS256"

def part (j : Json) : String := Base64.encode (Text.encodeUtf8 j.render)

def ofPart? (s : String) : Option Json := do
  match Text.decodeUtf8 (← Base64.decode? s) with
  | .ok text => Json.parse? text
  | .error _ => none

def signature (secret text : String) : String :=
  Base64.encode (Sha256.keyedDigest (Text.encodeUtf8 secret) (Text.encodeUtf8 text))

def signedAs (algorithm secret : String) (claims : Json) : String :=
  let text := part (.obj [("alg", .str algorithm), ("typ", .str "JWT")]) ++ "." ++ part claims
  text ++ "." ++ signature secret text

def sign (secret : String) (claims : Json) : String := signedAs algorithm secret claims

def claims? (token : String) : Option Json :=
  match Text.splitOn token "." with
  | [_, claims, _] => ofPart? claims
  | _ => none

def verified? (secret token : String) : Option Json := do
  match Text.splitOn token "." with
  | [head, claims, given] =>
    let kind ← ofPart? head
    if kind.textAt? "alg" = some algorithm ∧ signature secret (head ++ "." ++ claims) = given then
      ofPart? claims
    else none
  | _ => none

/-- A point in time in a claim, in seconds from the beginning of 1970. -/
def seconds? : Json → Option Int
  | .int n => some n
  | .float x => some x.toInt64.toInt
  | .str s => Text.integer? s
  | .bool b => some (if b then 1 else 0)
  | _ => none

/-- A claim about a point in time, if there is one, satisfies a condition. -/
def claimFits (claims : Json) (name : String) (fits : Int → Bool) : Bool :=
  match claims.get? name with
  | some value => (seconds? value).any fits
  | none => true

def isBlank : Json → Bool
  | .null | .bool false | .int 0 | .str "" | .arr [] | .obj [] => true
  | _ => false

/-- The claims can be made at some time, and by nobody but the site: they were issued before and expire later,
and they are not meant for anyone else. -/
def isCurrent (now : Time.Instant) (claims : Json) : Bool :=
  claimFits claims "iat" (fun n => n * 1000000 ≤ now.micros) &&
  claimFits claims "nbf" (fun n => n * 1000000 ≤ now.micros) &&
  claimFits claims "exp" (fun n => now.micros < n * 1000000) &&
  (claims.get? "aud").all isBlank &&
  (claims.get? "jti").all (·.text?.isSome)

end StreamBot.Web.Token
