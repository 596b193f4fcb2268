import StreamBot.Database.Tables
import StreamBot.Text.Url

/-! # Words that are explained

A word that is mentioned in a chat is explained there, and then not again for a while.  Words are mentioned
as whole words and without regard to case.  Abbreviations in capital letters can also be followed by a small
`s` for their plural.  Addresses do not count.
-/

namespace StreamBot.Chat

open Database (DictionaryEntry)

/-- Words with their explanations, and when each was last explained. -/
structure Dictionary where
  entries : List DictionaryEntry
  /-- When a word was explained on a platform, in seconds of a clock that never goes back. -/
  lastUses : Dict (Platform × String) Float := []

namespace Dictionary

def cooldown : Float := 60.0

def maxResponses : Nat := 4

def isEdge (before behind : Option Char) : Bool :=
  before.any Text.isWordChar != behind.any Text.isWordChar

def endsAt (before : Option Char) (cs : List Char) (length : Nat) : Bool :=
  isEdge ((cs.take length).getLast?.or before) (cs.drop length).head?

def mentionedAt (word : List Char) (before : Option Char) (cs : List Char) : Bool :=
  isEdge before cs.head? &&
    ((Text.beginsIgnoringCase word cs && endsAt before cs word.length) ||
      (Text.isAllCapitals word && (word ++ ['s']).isPrefixOf cs && endsAt before cs (word.length + 1)))

def mentionedFrom (word : List Char) (before : Option Char) : List Char → Bool
  | [] => mentionedAt word before []
  | c :: rest => mentionedAt word before (c :: rest) || mentionedFrom word (some c) rest

def mentioned (word text : String) : Bool := mentionedFrom word.toList none text.toList

def isCoolingDown (d : Dictionary) (platform : Platform) (now : Float) (word : String) : Bool :=
  match Dict.get? d.lastUses (platform, word) with
  | some last => decide (now - last < cooldown)
  | none => false

def due (d : Dictionary) (platform : Platform) (now : Float) (text : String) : List DictionaryEntry :=
  let text := Text.Url.removeAll text
  d.entries.filter fun entry =>
    mentioned entry.word text && !d.isCoolingDown platform now entry.word

def explanation (entry : DictionaryEntry) : String := entry.word ++ ": " ++ entry.explanation

def note (shown total : Nat) : String :=
  s!"Note: Only the first {shown} explanations are shown. There were another {total - shown} " ++
    "explanations available."

def use (d : Dictionary) (platform : Platform) (now : Float) (shown : List DictionaryEntry) : Dictionary :=
  { d with lastUses := shown.foldl (fun uses e => Dict.set uses (platform, e.word) now) d.lastUses }

/-- The explanations that a text calls for.  If there are too many, the last place is taken by a note. -/
def explain (d : Dictionary) (platform : Platform) (now : Float) (text : String) : Dictionary × List String :=
  let entries := d.due platform now text
  if maxResponses < entries.length then
    let shown := entries.take (maxResponses - 1)
    (d.use platform now shown, shown.map explanation ++ [note (maxResponses - 1) entries.length])
  else (d.use platform now entries, entries.map explanation)

def sameWord (a b : String) : Bool := Text.lower a == Text.lower b

def has (d : Dictionary) (word : String) : Bool := d.entries.any fun e => sameWord e.word word

def add (d : Dictionary) (word explanation : String) : Dictionary :=
  { d with entries := d.entries ++ [⟨word, explanation⟩] }

/-- The entries with a new explanation for the first one that has the word. -/
def explainAnew (word explanation : String) : List DictionaryEntry → List DictionaryEntry
  | [] => []
  | e :: rest =>
    if sameWord e.word word then { e with explanation } :: rest else e :: explainAnew word explanation rest

/-- The dictionary without the entries for a word, which may be explained anew on a platform. -/
def remove (d : Dictionary) (platform : Platform) (word : String) : Dictionary := {
  entries := d.entries.filter fun e => !sameWord e.word word,
  lastUses := Dict.erase d.lastUses (platform, word) }

def explanations (d : Dictionary) : Dict String String :=
  d.entries.foldl (fun found e => Dict.set found e.word e.explanation) []

end Dictionary
end StreamBot.Chat
