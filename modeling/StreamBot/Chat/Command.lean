import StreamBot.Text.Lines

/-! # Commands in a chat

A message that begins with an exclamation mark calls a command: the first word is the command's name and the
others are its arguments.
-/

/-! ## Words as a shell reads them

Words are divided by spaces, tabs and line ends.  Quotes keep a word together, and a word in quotes may be
empty.  A backslash takes the next character as it is; between double quotes it does so for a double quote
and a backslash only, and between single quotes for none.
-/

namespace StreamBot.Text.Words

inductive Mode where
  | plain
  | single
  | double
  | escaped
  /-- Behind a backslash between double quotes. -/
  | doubleEscaped
  deriving Repr, DecidableEq

def isDivider (c : Char) : Bool := c == ' ' || c == '\t' || c == '\r' || c == '\n'

/-- The words from some point on, of which `word` is the part of the current word that has been read, the
last character first.  A quote that is not closed and a backslash at the end are no words. -/
def read (mode : Mode) (word : Option (List Char)) : List Char → Option (List (List Char))
  | [] =>
    if mode = .plain then some (word.toList.map List.reverse) else none
  | c :: rest =>
    let soFar := word.getD []
    match mode with
    | .plain =>
      if isDivider c then do
        let more ← read .plain none rest
        return word.toList.map List.reverse ++ more
      else if c = '\x5c' then read .escaped (some soFar) rest
      else if c = '\x27' then read .single (some soFar) rest
      else if c = '"' then read .double (some soFar) rest
      else read .plain (some (c :: soFar)) rest
    | .single =>
      if c = '\x27' then read .plain word rest else read .single (some (c :: soFar)) rest
    | .double =>
      if c = '"' then read .plain word rest
      else if c = '\x5c' then read .doubleEscaped word rest
      else read .double (some (c :: soFar)) rest
    | .escaped => read .plain (some (c :: soFar)) rest
    | .doubleEscaped =>
      if c = '"' ∨ c = '\x5c' then read .double (some (c :: soFar)) rest
      else read .double (some (c :: '\x5c' :: soFar)) rest

def ofText (s : String) : Option (List String) :=
  (read .plain none s.toList).map (·.map String.ofList)

end StreamBot.Text.Words

/-! ## Calls of commands -/

namespace StreamBot.Chat

structure Command where
  name : String
  arguments : List String
  deriving Repr, DecidableEq

def Command.ofMessage? (text : String) : Option Command :=
  let text := Text.strip text
  if !Text.startsWith text "!" then none
  else
    match Text.Words.ofText text with
    | some (first :: arguments) =>
      let name := Text.strip (Text.dropPrefix first "!")
      if name.isEmpty then none else some ⟨name, arguments⟩
    | _ => none

end StreamBot.Chat
