import StreamBot.Text.Search

/-! # Blank characters

The characters that separate words: the separators of Unicode and those control characters whose
bidirectional class is a kind of space.
-/

namespace StreamBot.Text

def blanks : CodePoints := [
  (0x9, 0xD), (0x1C, 0x20), (0x85, 0x85), (0xA0, 0xA0), (0x1680, 0x1680), (0x2000, 0x200A),
  (0x2028, 0x2029), (0x202F, 0x202F), (0x205F, 0x205F), (0x3000, 0x3000)]

def isBlank (c : Char) : Bool := blanks.hasChar c

def trimStart (cs : List Char) : List Char := cs.dropWhile isBlank

def trimEnd (cs : List Char) : List Char := (cs.reverse.dropWhile isBlank).reverse

def trim (cs : List Char) : List Char := trimEnd (trimStart cs)

def strip (s : String) : String := String.ofList (trim s.toList)

def stripStart (s : String) : String := String.ofList (trimStart s.toList)

/-! ## Lines of a text

A line ends with a line feed, a carriage return, both in this order, or one of the separators below.
-/

def isLineEnd (c : Char) : Bool :=
  [0x0A, 0x0B, 0x0C, 0x0D, 0x1C, 0x1D, 0x1E, 0x85, 0x2028, 0x2029].contains c.toNat

/-- The lines of a text as pairs of a line's content and its end, which only the last may lack. -/
def lineParts : List Char → List (List Char × List Char)
  | [] => []
  | '\r' :: '\n' :: rest => ([], ['\r', '\n']) :: lineParts rest
  | c :: rest =>
    if isLineEnd c then ([], [c]) :: lineParts rest
    else match lineParts rest with
      | [] => [([c], [])]
      | (line, ending) :: more => (c :: line, ending) :: more

def linesWithEnds (cs : List Char) : List (List Char) :=
  (lineParts cs).map fun (line, ending) => line ++ ending

def lines (cs : List Char) : List (List Char) :=
  (lineParts cs).map (·.1)

/-- The text with a line feed in place of every carriage return and every pair of both. -/
def unifyLineEnds : List Char → List Char
  | [] => []
  | '\r' :: '\n' :: rest => '\n' :: unifyLineEnds rest
  | c :: rest => (if c = '\r' then '\n' else c) :: unifyLineEnds rest

/-! ## Tidy lines

A tidy text has no blanks around its lines, no blank line at its beginning or end and no two blank lines in
a row.
-/

/-- Lines with runs of blank lines made one; `blank` tells whether the line before was blank. -/
def collapseBlank (blank : Bool) : List (List Char) → List (List Char)
  | [] => []
  | line :: rest =>
    if !line.isEmpty then line :: collapseBlank false rest
    else if blank then collapseBlank true rest
    else [] :: collapseBlank true rest

def trimLines (ls : List (List Char)) : List (List Char) :=
  ((ls.dropWhile (·.isEmpty)).reverse.dropWhile (·.isEmpty)).reverse

def tidyChars (cs : List Char) : List Char :=
  let ls := (pieces ['\n'] (unifyLineEnds cs)).map trim
  glue ['\n'] (trimLines (collapseBlank false ls))

def tidy (s : String) : String := String.ofList (tidyChars s.toList)

/-! ## Digits

Two classes of digits.  The *decimal* digits come in runs of ten, each of which counts from zero, and
can be read as numbers in positional notation.  The wider class of *digits* also has superscript,
subscript, circled and similar forms, which cannot.
-/

/-- The zeros of the decimal systems; the nine code points after each are its other digits. -/
def decimalZeros : List Nat := [
  0x30, 0x660, 0x6F0, 0x7C0, 0x966, 0x9E6, 0xA66, 0xAE6, 0xB66, 0xBE6, 0xC66, 0xCE6, 0xD66, 0xDE6,
  0xE50, 0xED0, 0xF20, 0x1040, 0x1090, 0x17E0, 0x1810, 0x1946, 0x19D0, 0x1A80, 0x1A90, 0x1B50,
  0x1BB0, 0x1C40, 0x1C50, 0xA620, 0xA8D0, 0xA900, 0xA9D0, 0xA9F0, 0xAA50, 0xABF0, 0xFF10, 0x104A0,
  0x10D30, 0x11066, 0x110F0, 0x11136, 0x111D0, 0x112F0, 0x11450, 0x114D0, 0x11650, 0x116C0,
  0x11730, 0x118E0, 0x11950, 0x11C50, 0x11D50, 0x11DA0, 0x16A60, 0x16AC0, 0x16B50, 0x1D7CE,
  0x1D7D8, 0x1D7E2, 0x1D7EC, 0x1D7F6, 0x1E140, 0x1E2F0, 0x1E950, 0x1FBF0]

def digits : CodePoints := decimalZeros.map (fun z => (z, z + 9)) ++ [
  (0xB2, 0xB3), (0xB9, 0xB9), (0x1369, 0x1371), (0x19DA, 0x19DA), (0x2070, 0x2070), (0x2074, 0x2079),
  (0x2080, 0x2089), (0x2460, 0x2468), (0x2474, 0x247C), (0x2488, 0x2490), (0x24EA, 0x24EA), (0x24F5, 0x24FD),
  (0x24FF, 0x24FF), (0x2776, 0x277E), (0x2780, 0x2788), (0x278A, 0x2792), (0x10A40, 0x10A43),
  (0x10E60, 0x10E68), (0x11052, 0x1105A), (0x1F100, 0x1F10A)]

def isDigit (c : Char) : Bool := digits.hasChar c

def decimalValue? (c : Char) : Option Nat :=
  (decimalZeros.find? fun z => decide (z ≤ c.toNat) && decide (c.toNat < z + 10)).map (c.toNat - ·)

/-- The numbers that decimal digits denote, if all of `cs` are decimal digits. -/
def decimalValues? (cs : List Char) : Option (List Nat) := cs.mapM decimalValue?

def isDigits (s : String) : Bool := !s.isEmpty && s.toList.all isDigit

/-! ## Reading integers

An integer is a row of decimal digits of any script, with single underscores between digits, a sign in front
and blanks around it.
-/

def moreDigits? : List Char → Option (List Nat)
  | [] => some []
  | '_' :: c :: rest => do return (← decimalValue? c) :: (← moreDigits? rest)
  | c :: rest => do return (← decimalValue? c) :: (← moreDigits? rest)

def digits? : List Char → Option (List Nat)
  | [] => none
  | c :: rest => do return (← decimalValue? c) :: (← moreDigits? rest)

def ofDigits (digits : List Nat) : Nat := digits.foldl (fun n d => n * 10 + d) 0

def integer? (s : String) : Option Int :=
  match trim s.toList with
  | '-' :: rest => (digits? rest).map fun ds => -(ofDigits ds : Int)
  | '+' :: rest => (digits? rest).map fun ds => (ofDigits ds : Int)
  | cs => (digits? cs).map fun ds => (ofDigits ds : Int)

/-! ## Word characters

Letters, numerals and the underscore.  A word boundary lies between a word character and any other.
-/

def letters : CodePoints := .ofText "
  BwkhBagBaBvbhcbbdcbdbxbBfbRqemofhbbbEzfbccebbgbbdbbbubDfbFjiGkbBmcbgBpCtBbeeBtBrvkecbDvbbpchpcbqbbBeBdDllboBrjcebfwe
  bjbdbxzhlfybgrBqCgCcdbsbhkekbqeicccwbhbbdedbqbncbdemcgcbigeccwbhbcbcbcBfebbhkcdqjbdbwbhbcbfdbsbpcekjblicccwbhbcbfdbB
  ecbdekbhlbbgddbedcbbbcdcdddmwbvnsibdbxbqdbBadcbccekihbbeibdbxbkbfdbBfcbcekbcrjbdbBpcbqbfdbketbgfsdybjbbchBfkrBwbcmhj
  kBncbbbfbybbbkbcjbcfbbjkceBgbBfumibBkBbfElBrulggeedbdchdenmbbkgBmbbfbcBrbMvbechbbbecBpbecBhbechbbbecpbCfbecCpoudqqDi
  cgdXwcrbBafCxdlhsntosonbdpCaBjbebdkgkwkgDlhfcBibbfCskBfBnBocflBseBaglBlxjCbBrkgknbDpBvridkBpBenCeBaBkBckdBxcjhBrcdBp
  ebgbcdbfHkCmKscgcBmcgcibbbbbbbBfcCbbhbbddbhdecgenfdbhElccgflgnDxbebckbbdfgbbbbbbeblceffebbCgBByCiDawYgBeBRoIvgedcjbc
  BmbbfbcCehbqxjhbhbhbhbhbhbhbhDcbSbdzjhfcfeDigdbDmbefBrbDqdekBgBwqBgkBeibpBgkBnpMiJToCmBGUfCpBucKjdBcuBvqBfcDcBnjcDzc
  CmfcbbbfyqbdbebxngkCaoByBckygdbbcbBmkxzBdhBvBclgfbzbBpxdbiekgxdbdBybbdccfcbbbydclhdmgcgcgjhbhbBrbogElnkgQNsmxeBxMNcO
  ccEcBmhmffbbkbnbfbbbcbcbEeBhNzsCmcCcBomEmfbFftkhBagBalDldgcgcgcdBjmbBabtbcbpcoBiEtmBtmCfrcJkBddBxqBbeBkjBefBmkBecBke
  ibfBqGcckgBkeBkeBoiCamlbpbhbcblbpbhbcCpLzjwkiygbBqbjCrgcbbBsbcdbcxcBfcBmijBwtbcfBheBaCsCeeucBvpebdbBdkjxBfbBgBgibBcg
  fqCckwcBbfBaxhDcCvCdBznBzhBqmkLiBfbBqgcDaBoiwleBbsBuBcuxmCbBaBebccbnBtBgzhkjBkpkebcbiBjdbmBwoellbbeulsbzDghbbbebpbkh
  BvrklicccwbhbcbfdbsbmfGcCbsefkfdBeBwucbbikGkBvBpeBkBwublkBmBrnbhkCcBbvmehHdBsEmDfmicbcibcbypbbbokCsicBnqbbbBcbkBohbv
  blButbsCvKdjbBlrbpBdfBeEihbcbBmvbjkggbcbBgobhkLytHhbpvBrBJmDyEhrHoDXkDtpBPfFZtWlMUbVxhBfbkgDbbkgBesBwqemkbhbvftBAmDj
  EbCxfbConCmcbbBcJCaiBVqBqjNFrebhbcbLfBtdreiPgDKuEdfndjhkILiuEezFfDhbCtbccbcccebmbbbhbCnbecibhbBcbebfbbdhbNcczbzbBfbz
  bBfbzbBfbzbBfbzbicByCQyBfSnBtkhckebMjBesBsekBWghbebcbpbHpcjBwCqhbekBElChbdbeCyBtbpHmebBbbcbbcbbkbebbbbgbebbbbbbdbcbb
  cbbbbbbbbbbcbbcebhbebebbbkbrfdbfbrWinEDfkBNqCLFcBgGDthIocINqoLBlEPjUwCFyHHz"

def isWordChar (c : Char) : Bool :=
  if c.toNat < 128 then c.isAlphanum || c == '_' else letters.hasChar c

end StreamBot.Text
