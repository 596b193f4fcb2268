import StreamBot.Text.Lines

/-! # Quoting placeholders

A placeholder is a name in braces on one line.  In a text for a chat with Markdown it is shown as code:
`quotePlaceholders` puts it between backticks, unless it already stands inside of code.
-/

namespace StreamBot.Markdown

/-- The number of characters of the code at the front: a block between three backticks if it is closed, and
otherwise a span between two backticks. -/
def codeLength? (cs : List Char) : Option Nat :=
  match cs with
  | '`' :: rest =>
    let span : Option Nat := (Text.distanceTo? ['`'] rest).map (· + 2)
    match rest with
    | '`' :: '`' :: inside =>
      match Text.distanceTo? ['`', '`', '`'] inside with
      | some n => some (n + 6)
      | none => span
    | _ => span
  | _ => none

structure Piece where
  code : Bool
  text : List Char

/-- The pieces from some point on: `plain` are the characters before it that are not code, the last one
first, and the next `skip` characters belong to code that has been read. -/
def piecesFrom (plain : List Char) : Nat → List Char → List Piece
  | _, [] => [⟨false, plain.reverse⟩]
  | skip + 1, _ :: rest => piecesFrom [] skip rest
  | 0, c :: rest =>
    match codeLength? (c :: rest) with
    | some (n + 1) => ⟨false, plain.reverse⟩ :: ⟨true, (c :: rest).take (n + 1)⟩ :: piecesFrom [] n rest
    | _ => piecesFrom (c :: plain) 0 rest

def pieces (cs : List Char) : List Piece := piecesFrom [] 0 cs

def braced? (cs : List Char) : Option (List Char) :=
  match cs with
  | '\x7b' :: rest =>
    let inside := rest.takeWhile fun c => c != '\x7b' && c != '\x7d' && c != '\n'
    match rest.drop inside.length with
    | '\x7d' :: _ => some inside
    | _ => none
  | _ => none

def qualifies (only : Option (List String)) (inside : List Char) : Bool :=
  match only with
  | none => true
  | some names => names.contains (String.ofList (Text.trim inside))

def placeholder (only : Option (List String)) : Text.Matcher := fun _ cs =>
  match braced? cs with
  | some inside =>
    let whole := '\x7b' :: inside ++ ['\x7d']
    some ⟨inside.length + 1, if qualifies only inside then '`' :: whole ++ ['`'] else whole⟩
  | none => none

/-- The text with the placeholders outside of code quoted; `only` restricts which. -/
def quoteChars (only : Option (List String)) (cs : List Char) : List Char :=
  (pieces cs).flatMap fun p => if p.code then p.text else Text.substitute (placeholder only) p.text

/-- The text with the placeholders outside of code quoted; `only` restricts which. -/
def quotePlaceholders (only : Option (List String)) (s : String) : String :=
  String.ofList (quoteChars only s.toList)

end StreamBot.Markdown
