import StreamBot.Text.Search

/-! # Texts and pictures of streams going live -/

namespace StreamBot.Live

def broadcasterPlaceholder : String := "\x7bbroadcaster\x7d"

def announcement (template broadcaster : String) : String :=
  Text.replace template broadcasterPlaceholder broadcaster

/-! ## Preview pictures of streams

The address of a preview picture has placeholders for its width and its height.
-/

/-- A text with its placeholders filled in, where the name of one may have begun (its characters are in reverse
order).  A placeholder is a name in braces, and a brace that is meant is written twice.  None if there is a
brace without its partner, or a name that is not known. -/
def fillNames (value? : String → Option String) : Option (List Char) → List Char → Option (List Char)
  | none, [] => some []
  | some _, [] => none
  | none, '\x7b' :: '\x7b' :: cs => ('\x7b' :: ·) <$> fillNames value? none cs
  | none, '\x7d' :: '\x7d' :: cs => ('\x7d' :: ·) <$> fillNames value? none cs
  | none, '\x7b' :: cs => fillNames value? (some []) cs
  | none, '\x7d' :: _ => none
  | none, c :: cs => (c :: ·) <$> fillNames value? none cs
  | some name, '\x7d' :: cs =>
    match value? (String.ofList name.reverse) with
    | some value => (value.toList ++ ·) <$> fillNames value? none cs
    | none => none
  | some name, c :: cs => fillNames value? (some (c :: name)) cs

def pictureUrl? (address : String) (width height : Nat) : Option String :=
  String.ofList <$> fillNames (fun name =>
    if name = "width" then some (toString width)
    else if name = "height" then some (toString height)
    else none) none address.toList

end StreamBot.Live
