import StreamBot.Html.Node

/-! # Links

Addresses in texts become links.  No link is recommended to search engines, and links to other places open
in a new tab.
-/

namespace StreamBot.Html

open Text

def knownSchemes : List String := [
  "ed2k", "ftp", "http", "https", "irc", "mailto", "news", "gopher", "nntp", "telnet", "webcal", "xmpp",
  "callto", "feed", "urn", "aim", "rsync", "tag", "ssh", "sftp", "rtsp", "afs", "data"]

def linkDomains : List String := [
  "ac ad ae aero af ag ai al am an ao aq ar arpa as asia at au aw ax az ba bb bd be bf bg bh bi biz bj",
  "bm bn bo br bs bt bv bw by bz ca cat cc cd cf cg ch ci ck cl cm cn co com coop cr cu cv cx cy cz de",
  "dj dk dm do dz ec edu ee eg er es et eu fi fj fk fm fo fr ga gb gd ge gf gg gh gi gl gm gn gov gp gq",
  "gr gs gt gu gw gy hk hm hn hr ht hu id ie il im in info int io iq ir is it je jm jo jobs jp ke kg kh",
  "ki km kn kp kr kw ky kz la lb lc li lk lr ls lt lu lv ly ma mc md me mg mh mil mk ml mm mn mo mobi mp",
  "mq mr ms mt mu museum mv mw mx my mz na name nc net nf ng ni nl no np nr nu nz om org pa pe pf pg ph",
  "pk pl pm pn post pr pro ps pt pw py qa re ro rs ru rw sa sb sc sd se sg sh si sj sk sl sm sn so sr ss",
  "st su sv sx sy sz tc td tel tf tg th tj tk tl tm tn to tp tr travel tt tv tw tz ua ug uk us uy uz va",
  "vc ve vg vi vn vu wf ws xn xxx ye yt yu za zm zw"].flatMap fun line => splitOn line " "

/-- The length of a scheme with its colon and up to three slashes. -/
def schemeLength (cs : List Char) : Nat :=
  let name := cs.takeWhile Char.isAlphanum
  if knownSchemes.contains (lower (String.ofList name)) &&
      (cs.drop name.length).head? == some ':' then
    let behind := cs.drop (name.length + 1)
    name.length + 1 + min 3 (runOf (· == '/') behind)
  else 0

def isHostChar (c : Char) : Bool := isWordChar c || c == '-'

/-- The length of a host, which has at least two parts and a top-level domain at its end. -/
def hostLength? (cs : List Char) : Option Nat :=
  let run := cs.takeWhile fun c => isHostChar c || c == '.'
  let run := (run.reverse.dropWhile (· == '.')).reverse
  match (pieces ['.'] run).reverse with
  | last :: before@(_ :: _) =>
    let domain := last.takeWhile isWordChar
    if before.all (fun label => !label.isEmpty) &&
        linkDomains.contains (lower (String.ofList domain)) then
      some (run.length - last.length + domain.length)
    else none
  | _ => none

def portLength (cs : List Char) : Nat :=
  match cs with
  | ':' :: rest =>
    let n := runOf Char.isDigit rest
    if n = 0 then 0 else n + 1
  | _ => 0

def pathLength (cs : List Char) : Nat :=
  match cs with
  | c :: rest =>
    if c == '/' || c == '?' || c == '#' then
      1 + runOf (fun c => !(isBlank c || "\x7b\x7d|\\^[]\x60<>\"".toList.contains c)) rest
    else 0
  | [] => 0

def addressLength? (before : Option Char) (cs : List Char) : Option Nat := do
  let opening := runOf (· == '(') cs
  let before := if opening = 0 then before else some '('
  let rest := cs.drop opening
  if before.any (fun c => isWordChar c || c == '@' || c == '.') then none
  if !rest.head?.any isWordChar then none
  let scheme := schemeLength rest
  let (skipped, host) ← match hostLength? (rest.drop scheme) with
    | some n => some (scheme, n)
    | none => none
  let behind := rest.drop (skipped + host)
  let port := portLength behind
  let path := pathLength (behind.drop port)
  return opening + skipped + host + port + path

/-- An address without what belongs to the sentence around it: what is before it, the address, and what is
behind it.  Fuel is its length. -/
def trimAddress : Nat → List Char → List Char × List Char × List Char
  | 0, url => ([], url, [])
  | fuel + 1, url =>
    let last := url.getLast?
    if url.head? == some '(' then
      let url := url.tail
      let closes := url.getLast? == some ')'
      let (before, inner, behind) := trimAddress fuel (if closes then url.dropLast else url)
      ('(' :: before, inner, if closes then behind ++ [')'] else behind)
    else if (last == some ')' && !url.contains '(') || last == some ',' || last == some '.' then
      let (before, inner, behind) := trimAddress fuel url.dropLast
      (before, inner, behind ++ last.toList)
    else ([], url, [])

def linkTo (url : List Char) : Node :=
  let n := runOf (fun c => isWordChar c || c == '-') url
  let href := if (url.drop n).head? == some ':' && n != 0 then url else "http://".toList ++ url
  .element "a" [("href", String.ofList href), ("rel", "nofollow")] [.text url]

def consTextNode (content : List Char) (nodes : List Node) : List Node :=
  if content.isEmpty then nodes else .text content :: nodes

/-- A text with links for its addresses.  `plain` is what was read of the text since the last link, and the
next `skip` characters belong to a link. -/
def linkTexts (plain : List Char) (before : Option Char) : Nat → List Char → List Node
  | _, [] => consTextNode plain.reverse []
  | skip + 1, c :: rest => linkTexts plain (some c) skip rest
  | 0, c :: rest =>
    match addressLength? before (c :: rest) with
    | some n =>
      let (front, url, behind) := trimAddress n ((c :: rest).take n)
      if url.isEmpty then linkTexts (c :: plain) (some c) 0 rest
      else
        consTextNode (plain.reverse ++ front) <|
          linkTo url :: consTextNode behind (linkTexts [] (some c) (n - 1) rest)
    | none => linkTexts (c :: plain) (some c) 0 rest

def notRecommended (attributes : List (String × String)) : List (String × String) :=
  match attribute? attributes "href" with
  | none => attributes
  | some href =>
    if startsWith href "mailto:" then attributes
    else
      let values := (splitOn ((attribute? attributes "rel").getD "") " ").filter (!·.isEmpty)
      let values := if values.any (lower · == "nofollow") then values else values ++ ["nofollow"]
      attributes ++ [("rel", join " " values)]

/-- The attributes of a link that opens in a new tab if it leads to another place. -/
def inNewTab (attributes : List (String × String)) : List (String × String) :=
  match attribute? attributes "href" with
  | none => attributes
  | some href =>
    if ["http://", "https://", "//"].any (startsWith href) then
      let values := (splitOn ((attribute? attributes "rel").getD "") " ").filter (!·.isEmpty)
      let values := (values ++ ["noopener", "noreferrer", "nofollow"]).eraseDups.mergeSort (· ≤ ·)
      attributes ++ [("target", "_blank"), ("rel", join " " values)]
    else attributes

mutual

def Node.linked : Node → List Node
  | .text content => linkTexts [] none 0 content
  | .element name attributes children =>
    if name == "a" then [.element name (notRecommended attributes) children]
    else [.element name attributes (linkAll children)]

def linkAll : List Node → List Node
  | [] => []
  | node :: rest => node.linked ++ linkAll rest

end

mutual

def Node.tabbed : Node → Node
  | .text content => .text content
  | .element name attributes children =>
    .element name (if name == "a" then inNewTab attributes else attributes) (tabAll children)

def tabAll : List Node → List Node
  | [] => []
  | node :: rest => node.tabbed :: tabAll rest

end

def sanitize (document : List Char) : List Char :=
  renderAll (tabAll (linkAll (safeTree document)))

end StreamBot.Html
