import StreamBot.Text.Search

/-! # Letter case

Lower and upper case of texts.  Most letters map to one letter; a few have a longer upper case form, and
the capital sigma has two lower case forms: the one at the end of a word is its own letter.  Most capital letters are those
that have a lower case, and most small letters those that have an upper case.
-/

namespace StreamBot.Text

/-- Every `step`-th code point from `first` to `last` maps to the one `shift` further on. -/
structure CaseRun where
  first : Nat
  last : Nat
  step : Nat
  shift : Int
  deriving DecidableEq

def CaseRun.image? (r : CaseRun) (n : Nat) : Option Nat :=
  if r.first ≤ n ∧ n ≤ r.last ∧ (n - r.first) % r.step = 0 then some (Int.toNat (n + r.shift)) else none

def CaseRun.low (r : CaseRun) : Nat := Int.toNat (r.first + r.shift)

def CaseRun.high (r : CaseRun) : Nat := Int.toNat (r.last + r.shift)

def CaseRun.inverse (r : CaseRun) : CaseRun := ⟨r.low, r.high, r.step, -r.shift⟩

/-- The runs from some code point on.  There are four numbers for each: the distances to its first letter and from there to
its last one, the step and the shift. -/
def CaseRun.ofDistances (start : Int) : List Int → List CaseRun
  | before :: extent :: step :: shift :: rest =>
    ⟨Int.toNat (start + before), Int.toNat (start + before + extent), Int.toNat step, shift⟩ ::
      ofDistances (start + before + extent) rest
  | _ => []

def lowerRuns : List CaseRun := CaseRun.ofDistances 0 [
  65, 25, 1, 32, 102, 22, 1, 32, 2, 6, 1, 32, 34, 46, 2, 1, 4, 4, 2, 1, 3, 14, 2, 1, 3, 44, 2, 1, 2, 0, 1, -121, 1, 4,
  2, 1, 4, 0, 1, 210, 1, 2, 2, 1, 2, 0, 1, 206, 1, 0, 1, 1, 2, 1, 1, 205, 1, 0, 1, 1, 3, 0, 1, 79, 1, 0, 1, 202, 1, 0,
  1, 203, 1, 0, 1, 1, 2, 0, 1, 205, 1, 0, 1, 207, 2, 0, 1, 211, 1, 0, 1, 209, 1, 0, 1, 1, 4, 0, 1, 211, 1, 0, 1, 213,
  2, 0, 1, 214, 1, 4, 2, 1, 2, 0, 1, 218, 1, 0, 1, 1, 2, 0, 1, 218, 3, 0, 1, 1, 2, 0, 1, 218, 1, 0, 1, 1, 2, 1, 1,
  217, 1, 2, 2, 1, 2, 0, 1, 219, 1, 0, 1, 1, 4, 0, 1, 1, 8, 0, 1, 2, 1, 0, 1, 1, 2, 0, 1, 2, 1, 0, 1, 1, 2, 0, 1, 2,
  1, 16, 2, 1, 3, 16, 2, 1, 3, 0, 1, 2, 1, 2, 2, 1, 2, 0, 1, -97, 1, 0, 1, -56, 1, 38, 2, 1, 2, 0, 1, -130, 2, 16, 2,
  1, 8, 0, 1, 10795, 1, 0, 1, 1, 2, 0, 1, -163, 1, 0, 1, 10792, 3, 0, 1, 1, 2, 0, 1, -195, 1, 0, 1, 69, 1, 0, 1, 71,
  1, 8, 2, 1, 290, 2, 2, 1, 4, 0, 1, 1, 9, 0, 1, 116, 7, 0, 1, 38, 2, 2, 1, 37, 2, 0, 1, 64, 2, 1, 1, 63, 2, 16, 1,
  32, 2, 8, 1, 32, 36, 0, 1, 8, 9, 22, 2, 1, 6, 0, 1, -60, 3, 0, 1, 1, 2, 0, 1, -7, 1, 0, 1, 1, 3, 2, 1, -130, 1, 15,
  1, 80, 1, 31, 1, 32, 49, 32, 2, 1, 10, 52, 2, 1, 2, 0, 1, 15, 1, 12, 2, 1, 3, 94, 2, 1, 3, 37, 1, 48, 2890, 37, 1,
  7264, 2, 0, 1, 7264, 6, 0, 1, 7264, 723, 79, 1, 38864, 1, 5, 1, 8, 2203, 42, 1, -3008, 3, 2, 1, -3008, 321, 148, 2,
  1, 10, 0, 1, -7615, 2, 94, 2, 1, 10, 7, 1, -8, 9, 5, 1, -8, 11, 7, 1, -8, 9, 7, 1, -8, 9, 5, 1, -8, 12, 6, 2, -8, 9,
  7, 1, -8, 25, 7, 1, -8, 9, 7, 1, -8, 9, 7, 1, -8, 9, 1, 1, -8, 1, 1, 1, -74, 1, 0, 1, -9, 12, 3, 1, -86, 1, 0, 1,
  -9, 12, 1, 1, -8, 1, 1, 1, -100, 13, 1, 1, -8, 1, 1, 1, -112, 1, 0, 1, -7, 12, 1, 1, -128, 1, 1, 1, -126, 1, 0, 1,
  -9, 298, 0, 1, -7517, 4, 0, 1, -8383, 1, 0, 1, -8262, 7, 0, 1, 28, 46, 15, 1, 16, 20, 0, 1, 1, 819, 25, 1, 26, 1841,
  47, 1, 48, 49, 0, 1, 1, 2, 0, 1, -10743, 1, 0, 1, -3814, 1, 0, 1, -10727, 3, 4, 2, 1, 2, 0, 1, -10780, 1, 0, 1,
  -10749, 1, 0, 1, -10783, 1, 0, 1, -10782, 2, 0, 1, 1, 3, 0, 1, 1, 9, 1, 1, -10815, 1, 98, 2, 1, 9, 2, 2, 1, 5, 0, 1,
  1, 31054, 44, 2, 1, 20, 26, 2, 1, 136, 12, 2, 1, 4, 60, 2, 1, 11, 2, 2, 1, 2, 0, 1, -35332, 1, 8, 2, 1, 5, 0, 1, 1,
  2, 0, 1, -42280, 3, 2, 2, 1, 4, 18, 2, 1, 2, 0, 1, -42308, 1, 0, 1, -42319, 1, 0, 1, -42315, 1, 0, 1, -42305, 1, 0,
  1, -42308, 2, 0, 1, -42258, 1, 0, 1, -42282, 1, 0, 1, -42261, 1, 0, 1, 928, 1, 14, 2, 1, 2, 0, 1, -48, 1, 0, 1,
  -42307, 1, 0, 1, -35384, 1, 2, 2, 1, 7, 0, 1, 1, 6, 2, 2, 1, 29, 0, 1, 1, 22316, 25, 1, 32, 1222, 39, 1, 40, 137,
  35, 1, 40, 157, 36, 2, 39, -35, 8, 2, 39, 4, 12, 2, 39, 4, 4, 2, 39, 4, 0, 1, 39, 1771, 50, 1, 64, 3054, 31, 1, 32,
  21889, 31, 1, 32, 31393, 33, 1, 34]

/-- The letters whose upper case is another letter: some that share it with others, and the lower cases of letters. -/
def upperRuns : List CaseRun := CaseRun.ofDistances 0 [
  181, 0, 1, 743, 124, 0, 1, -232, 78, 0, 1, -300, 70, 0, 1, -1, 3, 0, 1, -1, 3, 0, 1, -1, 39, 0, 1, -1, 339, 0, 1,
  84, 125, 0, 1, -31, 14, 0, 1, -62, 1, 0, 1, -57, 4, 0, 1, -47, 1, 0, 1, -54, 26, 0, 1, -86, 1, 0, 1, -80, 4, 0, 1,
  -96, 6283, 0, 1, -6254, 1, 0, 1, -6253, 1, 0, 1, -6244, 1, 1, 1, -6242, 1, 0, 1, -6243, 1, 0, 1, -6236, 1, 0, 1,
  -6181, 1, 0, 1, 35266, 531, 0, 1, -59, 291, 0, 1, -7205] ++ lowerRuns.map CaseRun.inverse

/-- The upper cases of the letters with an iota under them: eight small letters and eight titles for each vowel. -/
private def iotaExpansions : List (Nat × List Nat) :=
  [(0x1F80, 0x1F08), (0x1F90, 0x1F28), (0x1FA0, 0x1F68)].flatMap fun (first, capital) =>
    (List.range 16).map fun i => (first + i, [capital + i % 8, 0x399])

def upperExpansions : List (Nat × List Nat) := iotaExpansions ++ (wordsOf "
  df+53+53 149+2bc+4e 1f0+4a+30c 390+399+308+301 3b0+3a5+308+301 587+535+552 1e96+48+331 1e97+54+308 1e98+57+30a
  1e99+59+30a 1e9a+41+2be 1f50+3a5+313 1f52+3a5+313+300 1f54+3a5+313+301 1f56+3a5+313+342 1fb2+1fba+399 1fb3+391+399
  1fb4+386+399 1fb6+391+342 1fb7+391+342+399 1fbc+391+399 1fc2+1fca+399 1fc3+397+399 1fc4+389+399 1fc6+397+342
  1fc7+397+342+399 1fcc+397+399 1fd2+399+308+300 1fd3+399+308+301 1fd6+399+342 1fd7+399+308+342 1fe2+3a5+308+300
  1fe3+3a5+308+301 1fe4+3a1+313 1fe6+3a5+342 1fe7+3a5+308+342 1ff2+1ffa+399 1ff3+3a9+399 1ff4+38f+399 1ff6+3a9+342
  1ff7+3a9+342+399 1ffc+3a9+399 fb00+46+46 fb01+46+49 fb02+46+4c fb03+46+46+49 fb04+46+46+4c fb05+53+54 fb06+53+54
  fb13+544+546 fb14+544+535 fb15+544+53b fb16+54e+546 fb17+544+53d").map fun word =>
    let codes := (pieces ['+'] word).map (numberOf 16)
    (codes.headD 0, codes.tail)

/-- The characters that do not count when the neighbours of a letter are looked for. -/
def caseIgnorable : CodePoints := .ofText "
  BnbgblbBjbbbCtbebbbebccTjHkecebjcbbJrhHzbfbBxBtbbbcbcbbBsblgklbbBjbkvqbDxibkbeBhbbbBeBbDnlCglebcbyyBrdBsbhcgiBpCgCdb
  bbeiebdhkcnbpbCgbeeibucBabccCfbececcddbBecdblcCfbefbcebucwgbbCgbcbbeibhclcBebCjbmbBybdbCdbbdfdbehclcBdbCgbcbgbfcucBc
  cCfceeibucBdbCubhdbbDmbchljDubcjjbbgCwcBbbbbbbCdobfbcflbBkjbDyebgbccczcedqenbccgbpbDqbXkdBKkdBdcBecBecCmcbhibcldbfbB
  tfBzbCncBibEodecjbgdIlccbCgbbhbbbbcigkcbBnbiBfBxeBwbbfbbfbBojmcBgeccbdCebbcdbbdCgiccCmgDedbnbhebgbdcByClnbBiDxRdbbdl
  dndndncmfickbcbcfBxfbkbbnbqnBzBhEJrcEjdEvbpbDsBgBvbSbbBkedffbDpgDpdBQBubBWcgKkbDuebkbbBceDccoBiDabxdDzddcibdbebzcfbF
  vcBasnbBmizlBudBwbceccrbvcCogccccmbibBjblbBzbbdccfcbbBbbocfcbbDwfjdErbcbebBDZsbFrrWbqdbmqBibcbGnbhbgblbBjbbbBvbBtcCp
  bvdTtbIsbFtfBNpgbBqbjWkdbcfeBodebGjcWbeOxcFxlBxeEtbCcpBpbcckdBxecccbebkbBydBkfbiCkbmcCajkecbDrdcbbcgbGebdivcCfcdbBlh
  dfHnicdbbxbDggbbecbcJeegcbcBbcDhicbbcEcbbbcgbbDxdcebfJzjbcJwcbbebFoeccebBgkBogceibjgcdBunbcPqhbgbbDewchbcbcEsgdbbcbh
  bbCucdbbbNjcIBbjUStfChhjeBNvbClrCmcbcYGpebhbcEUgcbeGYuBucxUydjqchBeeFsdCYdCdeByibobwfbpCAihbrchbcbfKboOebCjeCFwhEfiE
  BffBSXXpbBeDsEyJg"

def titleLetters : CodePoints := [
  (0x1C5, 0x1C5), (0x1C8, 0x1C8), (0x1CB, 0x1CB), (0x1F2, 0x1F2), (0x1F88, 0x1F8F),
  (0x1F98, 0x1F9F), (0x1FA8, 0x1FAF), (0x1FBC, 0x1FBC), (0x1FCC, 0x1FCC), (0x1FFC, 0x1FFC)]

/-- The capital letters that have no lower case of one letter. -/
def otherCapitals : CodePoints := .ofText "
  LsbZxdLBhbebddcdcbdfgbdbdcccbbkcfbGIQkBaBaBaBaBaBabbccbcccebiBaBaBacbecibhBbcbebfbbdhBbBaBaBaBaBaBaBaBaBaBaBaBezBhzB
  hzBhzBhzBhbJQbBagBagBa"

def otherSmallLetters : CodePoints := .ofText "
  GobpbEvbDgbnbocobdbDubsgBbbcbbbcdcbbbcbfcbbccbhbcbbcdgfbbbicBahcBefFtbEzbNrbBnbIXbErbdbqbBxImcbbRxbnbqnEfbdcdbBbbebe
  bccieEFvbcbchDybBUClcFqcCkjvbgbzbBjbbbBidBFpBjbhbnBIWtbcdbBqbjCZKhBaBahbsBaBaBaebbbhblBaBaBaBaBaBaBaBaBaBaBaBaBaBaBa
  BaBaBcBczbgBazbgBazbgBazbgBazbgbbCSykbu"

def isCapital (c : Char) : Bool :=
  lowerRuns.any (fun r => (r.image? c.toNat).isSome) && !titleLetters.hasChar c || otherCapitals.hasChar c

def isSmall (c : Char) : Bool :=
  upperRuns.any (fun r => (r.image? c.toNat).isSome) || (upperExpansions.lookup c.toNat).isSome ||
    otherSmallLetters.hasChar c

def shifted (runs : List CaseRun) (c : Char) : Char :=
  match runs.findSome? (·.image? c.toNat) with
  | some n => Char.ofNat n
  | none => c

/-- The first character that is not passed over is a letter with case. -/
def startsCased (cs : List Char) : Bool :=
  match cs.dropWhile caseIgnorable.hasChar with
  | [] => false
  | c :: _ => isCapital c || isSmall c

/-- The lower case of one character other than a capital sigma. -/
def lowerChar (c : Char) : List Char :=
  if c.toNat < 128 then [c.toLower]
  else if c.toNat = 0x130 then [Char.ofNat 0x69, Char.ofNat 0x307]
  else [shifted lowerRuns c]

def upperChar (c : Char) : List Char :=
  if c.toNat < 128 then [c.toUpper]
  else match upperExpansions.lookup c.toNat with
    | some ns => ns.map Char.ofNat
    | none => [shifted upperRuns c]

/-- Lower case from some point on; `before` are the characters up to it, the last one first. -/
def lowerFrom (before : List Char) : List Char → List Char
  | [] => []
  | c :: rest =>
    (if c.toNat = 0x3A3 then
      [Char.ofNat (if startsCased before && !startsCased rest then 0x3C2 else 0x3C3)]
    else lowerChar c) ++ lowerFrom (c :: before) rest

def lower (s : String) : String := String.ofList (lowerFrom [] s.toList)

def upper (s : String) : String := String.ofList (s.toList.flatMap upperChar)

/-- The lower case of a text in which only the letters from A to Z change. -/
def lowerAscii (s : String) : String := String.ofList (s.toList.map Char.toLower)

/-- A text has a capital letter, and no letter of it is small or in title case. -/
def isAllCapitals (cs : List Char) : Bool := cs.any isCapital && !cs.any isSmall

/-! ## Letters without regard to case

Two characters are the same letter if they have the same small letter.  Some small letters have the same
capital letter, and are the same letter too.
-/

def sharedCapitals : List (List Nat) := [
  [0x69, 0x131], [0x73, 0x17F], [0xB5, 0x3BC], [0x345, 0x3B9, 0x1FBE], [0x390, 0x1FD3], [0x3B0, 0x1FE3],
  [0x3B2, 0x3D0], [0x3B5, 0x3F5], [0x3B8, 0x3D1], [0x3BA, 0x3F0], [0x3C0, 0x3D6], [0x3C1, 0x3F1],
  [0x3C2, 0x3C3], [0x3C6, 0x3D5], [0x432, 0x1C80], [0x434, 0x1C81], [0x43E, 0x1C82], [0x441, 0x1C83],
  [0x442, 0x1C84, 0x1C85], [0x44A, 0x1C86], [0x463, 0x1C87], [0x1C88, 0xA64B], [0x1E61, 0x1E9B],
  [0xFB05, 0xFB06]]

def smallLetter (c : Char) : Char :=
  if c.toNat = 0x130 then 'i' else (lowerChar c).headD c

def sameLetter (c d : Char) : Bool :=
  let c := smallLetter c
  let d := smallLetter d
  c == d || sharedCapitals.any fun letters => letters.contains c.toNat && letters.contains d.toNat

def beginsIgnoringCase : List Char → List Char → Bool
  | [], _ => true
  | _ :: _, [] => false
  | c :: cs, d :: ds => sameLetter c d && beginsIgnoringCase cs ds

end StreamBot.Text
