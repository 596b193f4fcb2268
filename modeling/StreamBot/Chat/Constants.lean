import StreamBot.Text.Search

/-! # Constants in texts

A constant is a name and a text; the name in braces stands for the text.  Constants are filled in one after
the other, so the text of one can hold the names of later ones.
-/

namespace StreamBot.Chat

def placeholder (name : String) : String := "\x7b" ++ name ++ "\x7d"

def fillConstants (constants : List (String × String)) (text : String) : String :=
  constants.foldl (fun text (name, value) => Text.replace text (placeholder name) value) text

end StreamBot.Chat
