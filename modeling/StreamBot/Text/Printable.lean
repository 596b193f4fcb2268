import StreamBot.Text.Search

/-! # Printable characters

Which characters can be shown as they are: all but control and format characters, separators other than
the space, and code points without a character.
-/

namespace StreamBot.Text

def unprintable : CodePoints := .ofText "
  ExBimbBBmcgehbbbubPhbBmcBycdbCdiBbegrwbHkbBwcChcDxoChcBxcpbBccbblfBfjCwbGfbicccwbhbbdecjccceibecbfczcdbgeccwbhbcbcbc
  cbbfeccddbhebbhrkdbjbdbwbhbcbfckbdbdcbpecmhhbdbicccwbhbcbfcjcccdhdecbfcskcbgddbedcbbbcdcdddmefddbecbgbovfnbdbxbqcjbd
  behcbdcbceckhwbdbxbkbfcjbdbehcgcbeckbcnnbdbBzbdbgeqcBabdbsdybjbbchdbegbbbigkcdmCgeBdBlcbbbfbybbbxcfbbbgckceBgCubBkeB
  nbBkbpbnBlHqbbfbcOnbechbbbecBpbecBhbechbbbecpbCfbecCpcBgdBagDicgcYqbBcdDlhwjyjumnbdbcmDqckgkgoblgDlhBrfCskBfbmemebdB
  qcflBseBagldCkcCnbBdclgkgocBfBxCzdBvbEmiCidpdCihBrcliBrfUocgcBmcgcibbbbbbbBfcCbbpbocgbtcdbjryiBvrccBbbndBhpBhpFkeZnz
  lvCRscBgbNlfBtbbfbcCehcoyjhbhbhbhbhbhbhbhbEwBiBabDlmIgBamfClbDicDzfBrbDqbDgmBvbBRIrdCdjNkuHciHvfcbbbfyChdkgCeiCsimgE
  mlBedDableBhbCdjockcDzyBckgcgcgjhbhbCieEwckgQNsmxeBxeDAuJMeOccEcBmhmffBabfbbbcbcbEvqRdcCchbBgBqgBzbtbeefbFfeHidgcgcg
  cddhbhnccmbBabtbcbpcoBiEtfdeBtdDkbndbBvBuFaBddBxpBceBkjBefBrfBebBleoBqGcckgBkeBkeBoiCalmbpbhbcblbpbhbcCpLzjwkiygbBqb
  jCrgcbbBsbcdbcxbCuijBwtbcfBhdBbfbCmCeeucBybcfibdbBdcdekhjhCmBgBnemjCcdBdcBbfBahemhDcCvCdBznBzhBuikLiBfbBqbdccDaBoiBq
  wBaBmBcuxjDaeBkjCkbfnzhkgCbbsiBnjDsbulsbBsCnhbbbebpblgChfkgebicccwbhbcbfbkcccdcbgbfhchdfFjDobfBeCuikGkCccBmBiCrlkgnt
  CggkCcBbcpexHdCiDwDfmicbcibcbBebccmjkCsicBuclBbCuiDfnCvKdjbBtbokBddBgcwboCvhbcbBsdbbcbjikggbcbBlbcbghkLyzHbbpBynBJnD
  yEhbflHoDXkDvnBPfFZtWlMUbVxhBfbkeDdbkgBecgkCskkbhbvftBAmDnDxCxeCfhrCmflcoJCaiBVqBqjNFrebhbcbLfBtdreiPgDKuEdfndjhkceG
  YyBucxjEmCiJmkBncCwiEivCsFyumDjjzFfDhbCtbccbcccebmbbbhbCnbecibhbBcbebfbbdhbNccLgcBBapfbpBQmBfIrhbrchbcbfIfBtdockecMi
  BfrCgfbBWahbebcbpbHpcqBpCyekecBEfCqCyCjHmebBbbcbbcbbkbebbbbgbebbbbbbdbcbbcbbbbbbbbbbcbbcebhbebebbbkbrfdbfbrCacKkBseD
  wmpcpbpbBlkGsCeBdnBsejhcogFyBLwfqdndEmmDlhmebpmeCeikgBoiBeccDaNcmocfdfdhjBddlfgkkgiihjFrbCdBlkBNqCLFcBgGDthIocINqoLB
  lEPjUwCFyHHzBOTMrJgLECu"

def isPrintable (c : Char) : Bool :=
  if c.toNat < 127 then decide (32 ≤ c.toNat) else !unprintable.hasChar c

/-! ## Texts in quotes

A text inside of a message stands in single quotes, or in double quotes if it has a single quote and no
double one.  What cannot be shown is written as an escape sequence.
-/

/-- The last `width` hexadecimal digits of a number. -/
def hexText (width n : Nat) : String :=
  String.ofList ((List.range width).reverse.map fun i => Nat.digitChar (n / Nat.pow 16 i % 16))

def codeEscape (c : Char) : String :=
  let n := c.toNat
  if n < 0x100 then "\\x" ++ hexText 2 n
  else if n < 0x10000 then "\\u" ++ hexText 4 n
  else "\\U" ++ hexText 8 n

def quotedChar (quote c : Char) : String :=
  if c = quote ∨ c = '\x5c' then String.ofList ['\x5c', c]
  else if c = '\n' then "\\n"
  else if c = '\r' then "\\r"
  else if c = '\t' then "\\t"
  else if isPrintable c then c.toString
  else codeEscape c

def quoted (s : String) : String :=
  let single := '\x27'
  let double := '"'
  let quote := if s.toList.contains single && !s.toList.contains double then double else single
  String.singleton quote ++ String.join (s.toList.map (quotedChar quote)) ++ String.singleton quote

end StreamBot.Text
