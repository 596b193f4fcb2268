import StreamBot.Text.Lines
import StreamBot.Text.Case
import StreamBot.Text.TopLevelDomain

/-! # Addresses in a text

An address is found by its top-level domain: from there it extends in both directions to the next character
that cannot be part of it.  It need not have a scheme.  Addresses of mail boxes are not looked for.
-/

namespace StreamBot.Text.Url

def stops : List Char := "\"<>;".toList

def stopsLeft (c : Char) : Bool := isBlank c || stops.contains c || "|=])\x7d".toList.contains c

def stopsRight (c : Char) : Bool := isBlank c || stops.contains c

def enclosures : List (Char × Char) := [
  ('(', ')'), ('\x7b', '\x7d'), ('[', ']'), ('"', '"'), ('\x5c', '\x5c'), ('\x27', '\x27'), ('\x60', '\x60')]

def followsDomain (c : Char) : Bool :=
  isBlank c || "/\"'<>?:.,".toList.contains c || enclosures.any fun (_, right) => right == c

/-- The last parts of hosts: a top-level domain, or the last number of a numeric address. -/
def lastParts : List (List Char) := topLevelDomains ++ (List.range 256).map fun n => (toString n).toList

def ownMachine : List Char := "localhost".toList

/-- The longest end of a host at the beginning of a text, as it is written there. -/
def hostEnd? (cs : List Char) : Option (List Char) :=
  match cs with
  | '.' :: rest =>
    match ((lastParts.filter (beginsIgnoringCase · rest)).map List.length).max? with
    | some n => some (cs.take (n + 1))
    | none => none
  | _ => if beginsIgnoringCase ownMachine cs then some (cs.take ownMachine.length) else none

/-- The ends of hosts in a text from left to right, where the first `skip` characters belong to one. -/
def hostEndsIn : Nat → List Char → List (List Char)
  | _, [] => []
  | skip + 1, _ :: rest => hostEndsIn skip rest
  | 0, c :: rest =>
    match hostEnd? (c :: rest) with
    | some found => found :: hostEndsIn (found.length - 1) rest
    | none => hostEndsIn 0 rest

/-- The end of a host has something before it that belongs to the address, and nothing behind it that
belongs to the host. -/
def fitsAt (cs : List Char) (place length : Nat) : Bool :=
  decide (0 < place) && !(cs[place - 1]?.any stopsLeft) && cs[place + length]?.all followsDomain

def lastBefore? (c : Char) (limit : Nat) (cs : List Char) : Option Nat :=
  ((cs.take limit).zipIdx.filter (·.1 == c)).getLast?.map (·.2)

/-- An address without the brackets or quotes around it.  Fuel is its length. -/
def unenclosed (hostEndLength : Nat) : Nat → Nat → List Char → List Char
  | 0, _, url => url
  | fuel + 1, place, url =>
    let left := (enclosures.filterMap fun (l, _) => lastBefore? l place url).max?
    let right? := left.bind fun i => url[i]?.bind fun l => enclosures.lookup l
    let stop := match right?.bind fun r => lastBefore? r url.length url with
      | some i => if i < place then url.length else i
      | none => url.length
    let start := match left with
      | some i => i + 1
      | none => 0
    let inner := (url.take stop).drop start
    let place := place - start
    let afterHost := place + hostEndLength
    if inner[afterHost]?.any fun c => enclosures.any fun (_, r) => r == c then
      unenclosed hostEndLength fuel place (inner.take afterHost)
    else inner

def isLabel (cs : List Char) : Bool :=
  let plain := fun c : Char => c.isAlphanum || c == '_'
  decide (cs.length ≤ 63) && cs.all (fun c => plain c || c == '-') &&
    cs.head?.any plain && cs.getLast?.any plain

def isAddress (hostEnd url : List Char) : Bool :=
  let afterScheme := distanceTo? "://".toList url
  let authority := match afterScheme with
    | some n => url.drop (n + 3)
    | none => url
  let authority := authority.takeWhile fun c => !"/?#".toList.contains c
  let hasUser := authority.contains '@'
  if authority.head? == some '@' || (hasUser && afterScheme.isNone) then false
  else
    let host := (authority.reverse.takeWhile (· != '@')).reverse
    let host := (lower (String.ofList (host.takeWhile (· != ':')))).toList
    if host == ownMachine then true
    else match (pieces ['.'] host).reverse with
      | last :: label :: _ =>
        '.' :: last == (lower (String.ofList hostEnd)).toList && isLabel label
      | _ => false

def around (cs : List Char) (place : Nat) (hostEnd : List Char) : List Char :=
  let before := ((cs.take place).reverse.takeWhile fun c => !stopsLeft c).reverse
  let behind := (cs.drop (place + 1)).takeWhile fun c => !stopsRight c
  let url := before ++ (cs.drop place).take (behind.length + 1)
  let slashes := runOf (· == '/') url
  let url := url.drop slashes
  let place := before.length - slashes
  let url := match url.getLast? with
    | some c =>
      if hostEnd.isSuffixOf url.dropLast && followsDomain c && c != '/' then url.dropLast else url
    | none => url
  unenclosed hostEnd.length url.length place url

/-- The addresses in a text, where the ends of hosts from the place `start` on are given. -/
def foundFrom (cs : List Char) (start : Nat) : List (List Char) → List (List Char)
  | [] => []
  | hostEnd :: more =>
    let rest := cs.drop start
    match distanceTo? hostEnd rest with
    | none => foundFrom cs (start + hostEnd.length - 1) more
    | some place =>
      let next := start + place + hostEnd.length
      if fitsAt cs (start + place) hostEnd.length then
        let url := around rest place hostEnd
        if isAddress hostEnd url then
          let inside := (distanceTo? hostEnd url).getD 0 + hostEnd.length
          url :: foundFrom cs (next + (url.length - inside)) more
        else foundFrom cs next more
      else foundFrom cs next more

def found (cs : List Char) : List (List Char) := foundFrom cs 0 (hostEndsIn 0 cs)

def occurrence (url : List Char) : Matcher := fun _ cs =>
  if url.isPrefixOf cs &&
      (cs[url.length]?.all fun c => isBlank c || "][()\x7b\x7d<>\"'\x60.,!?;:".toList.contains c) then
    Match.ofLength? url.length []
  else none

/-- Puts a character before a text; `merge` tells which two neighbours become one. -/
def prepend (merge : Char → Char → Option Char) (c : Char) : List Char → List Char
  | [] => [c]
  | d :: rest =>
    match merge c d with
    | some e => e :: rest
    | none => c :: d :: rest

def gap? (c d : Char) : Option Char :=
  if [' ', '\t'].contains c && [' ', '\t'].contains d then some ' ' else none

def lineEnd? (c d : Char) : Option Char :=
  if c == ' ' && d == '\n' || c == '\n' && d == ' ' then some '\n' else none

/-- A text with one space for each gap, and without the spaces at the ends of its lines and the blanks at its own. -/
def tight (cs : List Char) : List Char := trim ((cs.foldr (prepend gap?) []).foldr (prepend lineEnd?) [])

/-- The text without its addresses.  Blanks around it are not part of it. -/
def removeAll (s : String) : String :=
  let cs := trim s.toList
  let urls := (found cs).eraseDups.mergeSort fun a b => b.length ≤ a.length
  String.ofList (tight (urls.foldl (fun cs url => substitute (occurrence url) cs) cs))

end StreamBot.Text.Url
