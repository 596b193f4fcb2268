import StreamBot.Json.Basic
import StreamBot.Text.Search

/-! # Sessions in which migrations are run

The database is the one whose file the environment names, or else the one of the configuration.  Without a
connection, statements are written down as texts, with their values in them.
-/

namespace StreamBot.Schema

def databaseUrl (path : String) : String := "sqlite:///" ++ Text.normalPath path

def tableNames : List String := [
  "broadcast", "cachedsourcecode", "configurationsetting", "constant", "dictionaryentry",
  "emailverificationtoken", "entrancesound", "livenotificationchannel", "notification", "parameter",
  "parameterizedcommand", "pendingsoundboardclip", "raideventaction", "receivedtwitchmessage", "script",
  "scriptstore", "soundboardcommand", "staticcommand", "translation", "twitchtokenset", "userprofile"]

inductive TextKind where
  /-- A text whose length the database chooses. -/
  | automatic
  | plain
  deriving Repr, DecidableEq

/-- How an item of a generated migration is written, if not as usual. -/
def rendered? (what : String) (kind : TextKind) : Option String :=
  if what = "type" ∧ kind = .automatic then some "sa.String()" else none

structure Session where
  url : String
  offline : Bool
  deriving Repr, DecidableEq

def Session.ofEnvironment (configured : String) (databaseFile : Option String) (offline : Bool) : Session :=
  ⟨(databaseFile.map databaseUrl).getD configured, offline⟩

def Session.options (s : Session) : Json :=
  if s.offline then .obj [
    ("url", .str s.url), ("literal_binds", .bool true),
    ("dialect_opts", .obj [("paramstyle", .str "named")])]
  else .obj [("connected", .str s.url)]

def Session.steps (s : Session) (items : List (String × TextKind)) : List Json := [
  .obj [("configure", s.options), ("tables", Json.ofTexts tableNames),
    ("rendered", Json.ofList (fun (what, kind) => ((rendered? what kind).map Json.str).getD (.bool false))
      items)],
  .str "begin", .str "run", .str "end"]

end StreamBot.Schema
