/-! # Searching and cutting texts

Occurrences are looked for from left to right and do not overlap.
-/

namespace StreamBot.Text

/-- The pieces of `cs` between the occurrences of `d`, where the first `skip` characters belong to an
occurrence. -/
def piecesFrom (d : List Char) : Nat → List Char → List (List Char)
  | _, [] => [[]]
  | skip + 1, _ :: rest => piecesFrom d skip rest
  | 0, c :: rest =>
    if d.isPrefixOf (c :: rest) then [] :: piecesFrom d (d.length - 1) rest
    else match piecesFrom d 0 rest with
      | [] => [[c]]
      | piece :: more => (c :: piece) :: more

/-- The pieces of `cs` between the occurrences of `d`, which is not empty. -/
def pieces (d cs : List Char) : List (List Char) := piecesFrom d 0 cs

def wordsOf (s : String) : List (List Char) :=
  (pieces [' '] (s.toList.map fun c => if c = '\n' then ' ' else c)).filter (!·.isEmpty)

def hexDigit? (c : Char) : Option Nat :=
  if c.isDigit then some (c.toNat - 48)
  else if 'a' ≤ c ∧ c ≤ 'f' then some (c.toNat - 87)
  else if 'A' ≤ c ∧ c ≤ 'F' then some (c.toNat - 55)
  else none

def numberOf (base : Nat) (digits : List Char) : Nat :=
  digits.foldl (fun n c => n * base + (hexDigit? c).getD 0) 0

def glue (d : List Char) : List (List Char) → List Char
  | [] => []
  | [piece] => piece
  | piece :: rest => piece ++ d ++ glue d rest

/-- The pieces of a text between the occurrences of a delimiter, which is not empty. -/
def splitOn (s d : String) : List String := (pieces d.toList s.toList).map String.ofList

def join (d : String) (parts : List String) : String :=
  String.ofList (glue d.toList (parts.map String.toList))

/-- Every occurrence of `old` replaced by `new`.  Nothing occurs before each character and at the end. -/
def replace (s old new : String) : String :=
  if old.isEmpty then
    String.ofList (new.toList ++ s.toList.flatMap fun c => c :: new.toList)
  else join new (splitOn s old)

def occursIn (part : List Char) : List Char → Bool
  | [] => part.isEmpty
  | c :: rest => part.isPrefixOf (c :: rest) || occursIn part rest

def contains (s part : String) : Bool := occursIn part.toList s.toList

def startsWith (s part : String) : Bool := part.toList.isPrefixOf s.toList

def endsWith (s part : String) : Bool := part.toList.isSuffixOf s.toList

def dropPrefix (s part : String) : String :=
  if startsWith s part then String.ofList (s.toList.drop part.length) else s

/-- `s` without any of the characters `c` at its beginning. -/
def dropLeading (c : Char) (s : String) : String := String.ofList (s.toList.dropWhile (· == c))

/-! ## Paths in normal form

A path is a root and the names below it.  Empty names and names that are a single point say nothing; two
points stay.
-/

/-- The root of an absolute path: two slashes are a root of their own, three and more are one. -/
def pathRoot (s : String) : String :=
  match s.toList with
  | '/' :: '/' :: '/' :: _ => "/"
  | '/' :: '/' :: _ => "//"
  | '/' :: _ => "/"
  | _ => ""

def pathNames (s : String) : List String :=
  (splitOn s "/").filter fun name => !name.isEmpty && name != "."

def normalPath (s : String) : String :=
  let path := pathRoot s ++ join "/" (pathNames s)
  if path.isEmpty then "." else path

/-! ## Replacing what matches

A matcher looks at a place in a text, between the character before it and the rest, and says how many
characters it takes and what stands in their place.
-/

/-- What is found at a place: one less than the number of characters it takes, and what replaces them. -/
structure Match where
  more : Nat
  replacement : List Char

/-- Looks for a match behind a character, if there is one, and before the rest of the text. -/
abbrev Matcher := Option Char → List Char → Option Match

/-- The text with all matches replaced, where the next `skip` characters belong to a match. -/
def substituteFrom (find : Matcher) (before : Option Char) : Nat → List Char → List Char
  | _, [] => []
  | skip + 1, c :: rest => substituteFrom find (some c) skip rest
  | 0, c :: rest =>
    match find before (c :: rest) with
    | some m => m.replacement ++ substituteFrom find (some c) m.more rest
    | none => c :: substituteFrom find (some c) 0 rest

def substitute (find : Matcher) (cs : List Char) : List Char := substituteFrom find none 0 cs

/-- The match of `n` characters; none if there are no characters. -/
def Match.ofLength? (n : Nat) (replacement : List Char) : Option Match :=
  match n with
  | 0 => none
  | more + 1 => some ⟨more, replacement⟩

def atLineStart (before : Option Char) : Bool := before.all (· == '\n')

/-- The number of characters before the first occurrence of `d`. -/
def distanceTo? (d : List Char) : List Char → Option Nat
  | [] => if d.isEmpty then some 0 else none
  | c :: rest => if d.isPrefixOf (c :: rest) then some 0 else (distanceTo? d rest).map (· + 1)

def runOf (p : Char → Bool) (cs : List Char) : Nat := (cs.takeWhile p).length

/-! ## Sets of code points

A character class is given as a list of closed intervals of code points.
-/

abbrev CodePoints := List (Nat × Nat)

/-- The set of code points from some point on with the given stretches: so many are left out, so many are in the set, and so
on in turn. -/
def CodePoints.ofStretches (start : Nat) : List Nat → CodePoints
  | out :: inside :: rest =>
    (start + out, start + out + inside - 1) :: ofStretches (start + out + inside) rest
  | _ => []

/-- The numbers of a table, of which some digits have been read.  They are in base 26: the last digit of a number is a small
letter, and those before it are capital letters. -/
def numbersFrom (n : Nat) : List Char → List Nat
  | [] => []
  | c :: rest =>
    if c.isUpper then numbersFrom (26 * n + (c.toNat - 65)) rest
    else if c.isLower then (26 * n + (c.toNat - 97)) :: numbersFrom 0 rest
    else numbersFrom n rest

def CodePoints.ofText (s : String) : CodePoints := .ofStretches 0 (numbersFrom 0 s.toList)

def CodePoints.holds (s : CodePoints) (n : Nat) : Bool :=
  s.any fun (lo, hi) => decide (lo ≤ n) && decide (n ≤ hi)

def CodePoints.hasChar (s : CodePoints) (c : Char) : Bool :=
  s.holds c.toNat

def codePoints (s : String) : List Nat := s.toList.map Char.toNat

end StreamBot.Text
