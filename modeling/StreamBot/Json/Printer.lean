import StreamBot.Decimal.Numeral
import StreamBot.Json.Basic

/-! # JSON texts

Documents are written without blanks.  Characters outside ASCII stand for themselves; control characters,
quotes and backslashes are escaped.
-/

namespace StreamBot.Json

def hexDigits4 (n : Nat) : String :=
  String.ofList ([n / 4096, n / 256, n / 16, n].map fun d => Nat.digitChar (d % 16))

def escapeChar (c : Char) : String :=
  if c = '"' then "\\\""
  else if c = '\x5c' then "\\\\"
  else if c = '\n' then "\\n"
  else if c = '\r' then "\\r"
  else if c = '\t' then "\\t"
  else if c = '\x08' then "\\b"
  else if c = '\x0c' then "\\f"
  else if c.toNat < 32 then "\\u" ++ hexDigits4 c.toNat
  else c.toString

def quoted (s : String) : String :=
  s.foldl (fun acc c => acc ++ escapeChar c) "\"" ++ "\""

/-- A number; what is neither finite nor a number is null. -/
def floatText (x : Float) : String :=
  match Decimal.Binary.ofFloat x with
  | .finite .. => Decimal.text x
  | _ => "null"

mutual

def render : Json → String
  | null => "null"
  | bool b => if b then "true" else "false"
  | int n => toString n
  | float x => floatText x
  | str s => quoted s
  | arr items => "[" ++ renderItems items ++ "]"
  | obj fields => "\x7b" ++ renderFields fields ++ "\x7d"

def renderItems : List Json → String
  | [] => ""
  | [j] => render j
  | j :: rest => render j ++ "," ++ renderItems rest

def renderFields : List (String × Json) → String
  | [] => ""
  | [(k, j)] => quoted k ++ ":" ++ render j
  | (k, j) :: rest => quoted k ++ ":" ++ render j ++ "," ++ renderFields rest

end

end StreamBot.Json
