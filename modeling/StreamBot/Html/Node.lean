import StreamBot.Html.Reference
import StreamBot.Text.Case
import StreamBot.Text.Lines

/-! # Documents as trees

A document in HTML is read as a sequence of tags and texts, and these as a tree.  Names are in lower case, and references
are replaced by the characters they stand for.  What is not written in a correct way is a text.
-/

namespace StreamBot.Html

/-! ## Tags and texts -/

inductive Token where
  | text (content : List Char)
  /-- The beginning of an element; some have nothing inside. -/
  | start (name : String) (attributes : List (String × String)) (closed : Bool)
  | stop (name : String)
  | comment
  deriving Repr

namespace Token

def upTo? (d : List Char) (cs : List Char) : Option (List Char × List Char) :=
  (Text.distanceTo? d cs).map fun n => (cs.take n, cs.drop (n + d.length))

def nameOf (cs : List Char) : String := Text.lower (String.ofList cs)

def endsName (c : Char) : Bool := Text.isBlank c || c == '/' || c == '>'

/-- A value behind an equals sign, and the rest; none if a quote is not closed. -/
def value? (cs : List Char) : Option (List Char × List Char) :=
  match cs with
  | '"' :: rest => upTo? ['"'] rest
  | '\x27' :: rest => upTo? ['\x27'] rest
  | _ =>
    let v := cs.takeWhile fun c => !(Text.isBlank c || c == '>')
    some (v, cs.drop v.length)

/-- The attributes of a tag, whether it is closed, and what is behind it; none if it does not end.  Fuel is
the length of the text. -/
def attributes? : Nat → List Char → Option (List (String × String) × Bool × List Char)
  | 0, _ => none
  | fuel + 1, cs =>
    match Text.trimStart cs with
    | [] => none
    | '>' :: rest => some ([], false, rest)
    | '/' :: '>' :: rest => some ([], true, rest)
    | '/' :: rest => attributes? fuel rest
    | c :: rest => do
      let name := c :: rest.takeWhile fun c => !(endsName c || c == '=')
      let behind := Text.trimStart (rest.drop (name.length - 1))
      let (v, behind) ← match behind with
        | '=' :: more => value? (Text.trimStart (more.dropWhile (· == '=')))
        | _ => some ([], behind)
      let (others, closed, behind) ← attributes? fuel behind
      return ((nameOf name, String.ofList (unescape v)) :: others, closed, behind)

def tag? (cs : List Char) : Option (Token × List Char) :=
  match cs with
  | '!' :: '-' :: '-' :: rest => (upTo? "-->".toList rest).map fun (_, rest) => (.comment, rest)
  | '!' :: rest => (upTo? ['>'] rest).map fun (_, rest) => (.comment, rest)
  | '?' :: rest => (upTo? ['>'] rest).map fun (_, rest) => (.comment, rest)
  | '/' :: c :: rest =>
    if c.isAlpha then
      (upTo? ['>'] (c :: rest)).map fun (inside, rest) =>
        (.stop (nameOf (inside.takeWhile fun c => !endsName c)), rest)
    else none
  | c :: rest =>
    if c.isAlpha then do
      let name := c :: rest.takeWhile fun c => !endsName c
      let behind := rest.drop (name.length - 1)
      let (attributes, closed, behind) ← attributes? (behind.length + 1) behind
      return (.start (nameOf name) attributes closed, behind)
    else none
  | [] => none

def consText (content : List Char) (tokens : List Token) : List Token :=
  if content.isEmpty then tokens else .text (unescape content) :: tokens

/-- The tokens of a document.  `raw` holds for elements in which there are no tags.  Fuel is the length of
the document. -/
def scan (raw : String → Bool) : Nat → List Char → List Token
  | 0, _ => []
  | fuel + 1, cs =>
    let content := cs.takeWhile (· != '<')
    consText content <|
      match cs.drop content.length with
      | '<' :: rest =>
        match tag? rest with
        | none => .text ['<'] :: scan raw fuel rest
        | some (.start name attributes closed, rest) =>
          if raw name && !closed then
            let inside := match Text.distanceTo? ("</" ++ name).toList rest with
              | some n => rest.take n
              | none => rest
            let more := scan raw fuel (rest.drop inside.length)
            .start name attributes closed :: (if inside.isEmpty then more else .text inside :: more)
          else .start name attributes closed :: scan raw fuel rest
        | some (token, rest) => token :: scan raw fuel rest
      | _ => []

end Token

def tokens (raw : String → Bool) (cs : List Char) : List Token := Token.scan raw (cs.length + 1) cs

/-! ## Trees -/

inductive Node where
  | text (content : List Char)
  | element (name : String) (attributes : List (String × String)) (children : List Node)
  deriving Repr

def voidElements : List String := [
  "area", "base", "basefont", "bgsound", "br", "col", "command", "embed", "frame", "hr", "image", "img",
  "input", "isindex", "keygen", "link", "menuitem", "meta", "nextid", "param", "source", "spacer", "track",
  "wbr"]

/-- An element that is not yet closed, with its children so far, the last one first. -/
structure OpenElement where
  name : String
  attributes : List (String × String)
  children : List Node := []

/-- The elements that are not yet closed, the innermost first.  The outermost one is the document. -/
structure OpenElements where
  inner : List OpenElement := []
  document : List Node := []

namespace OpenElements

def add (s : OpenElements) (node : Node) : OpenElements :=
  match s.inner with
  | [] => { s with document := node :: s.document }
  | top :: rest => { s with inner := { top with children := node :: top.children } :: rest }

def pop (s : OpenElements) : OpenElements :=
  match s.inner with
  | [] => s
  | top :: rest => add ⟨rest, s.document⟩ (.element top.name top.attributes top.children.reverse)

def popMany : Nat → OpenElements → OpenElements
  | 0, s => s
  | n + 1, s => popMany n s.pop

/-- Closes the innermost element with a name and all inside of it, if there is one and no element stands in
the way. -/
def close (s : OpenElements) (name : String) (barrier : String → Bool) : OpenElements :=
  let before := s.inner.takeWhile fun e => e.name != name && !barrier e.name
  match s.inner.drop before.length with
  | e :: _ => if e.name == name then popMany (before.length + 1) s else s
  | [] => s

/-- Opens an element; one that never has anything inside is closed at once. -/
def start (s : OpenElements) (name : String) (attributes : List (String × String)) (closed : Bool) : OpenElements :=
  let s : OpenElements := { s with inner := ⟨name, attributes, []⟩ :: s.inner }
  if closed || voidElements.contains name then s.pop else s

def finish (s : OpenElements) : List Node := (popMany s.inner.length s).document.reverse

end OpenElements

/-- The tree of a document in which elements only end at their end tags. -/
def tree (tokens : List Token) : List Node :=
  (tokens.foldl (fun (s : OpenElements) token =>
    match token with
    | .text content => s.add (.text content)
    | .start name attributes closed => s.start name attributes closed
    | .stop name => s.close name fun _ => false
    | .comment => s) {}).finish

def parse (cs : List Char) : List Node :=
  tree (tokens (fun name => name == "script" || name == "style") cs)

mutual

/-- The texts in a tree, in order.  Scripts and styles have none. -/
def Node.texts : Node → List (List Char)
  | .text content => [content]
  | .element name _ children =>
    if ["script", "style", "template", "rt", "rp"].contains name then [] else textsOfAll children

def textsOfAll : List Node → List (List Char)
  | [] => []
  | node :: rest => node.texts ++ textsOfAll rest

end

/-- The value of an attribute; of several with one name, the last one counts. -/
def attribute? (attributes : List (String × String)) (name : String) : Option String :=
  attributes.reverse.lookup name

/-- An attribute as it is written.  A value with double quotes is in single quotes. -/
def attributeText (pair : String × String) : List Char :=
  let value := pair.2.toList
  let text :=
    if value.contains '"' then
      if value.contains '\x27' then '"' :: escapeQuoted value ++ ['"']
      else '\x27' :: escape value ++ ['\x27']
    else '"' :: escape value ++ ['"']
  ' ' :: pair.1.toList ++ '=' :: text

def sortedAttributes (attributes : List (String × String)) : List (String × String) :=
  let names := (attributes.map (·.1)).eraseDups.mergeSort (· ≤ ·)
  names.map fun name => (name, (attribute? attributes name).getD "")

mutual

def Node.render : Node → List Char
  | .text content => escape content
  | .element name attributes children =>
    let head := '<' :: name.toList ++ (sortedAttributes attributes).flatMap attributeText
    if voidElements.contains name then head ++ "/>".toList
    else head ++ '>' :: renderAll children ++ "</".toList ++ name.toList ++ ['>']

def renderAll : List Node → List Char
  | [] => []
  | node :: rest => node.render ++ renderAll rest

end

/-! ## The text of a document

Links are followed by their addresses, images are replaced by their descriptions, and elements that stand for
themselves begin and end on lines of their own.
-/

def blockElements : List String := [
  "p", "div", "section", "article", "header", "footer", "main", "aside", "ul", "ol", "li", "dl", "dt", "dd",
  "blockquote", "pre", "h1", "h2", "h3", "h4", "h5", "h6", "table", "thead", "tbody", "tr", "th", "td"]

def trimmedAttribute (attributes : List (String × String)) (name : String) : List Char :=
  Text.trim ((attribute? attributes name).getD "").toList

def linkText (attributes : List (String × String)) (children : List Node) : List Char :=
  let text := (textsOfAll children).flatMap Text.trim
  let address := trimmedAttribute attributes "href"
  if address.isEmpty then text
  else if text.isEmpty then address
  else text ++ " (".toList ++ address ++ [')']

def imageText (attributes : List (String × String)) : List Char :=
  let description := trimmedAttribute attributes "alt"
  let address := trimmedAttribute attributes "src"
  match description.isEmpty, address.isEmpty with
  | false, false => description ++ " (".toList ++ address ++ [')']
  | false, true => description
  | true, false => "[image: ".toList ++ address ++ [']']
  | true, true => "[image]".toList

mutual

def Node.plain : Node → List Char
  | .text content => content
  | .element name attributes children =>
    if name == "a" then linkText attributes children
    else if name == "img" then imageText attributes
    else if name == "br" then ['\n']
    else if ["script", "style", "template", "rt", "rp"].contains name then []
    else if blockElements.contains name then '\n' :: plainAll children ++ ['\n']
    else plainAll children

def plainAll : List Node → List Char
  | [] => []
  | node :: rest => node.plain ++ plainAll rest

end

def plainText (document : List Char) : List Char := Text.tidyChars (plainAll (parse document))

/-! ## Documents that are safe to show

Only some elements are kept.  Of others only what is inside is left, on a line of its own if they stand for
themselves.  Links keep their addresses if these are harmless.
-/

def allowedElements : List String := [
  "b", "strong", "i", "em", "u", "s", "code", "pre", "kbd", "p", "br", "ul", "ol", "li", "blockquote", "a"]

def allowedAttributes : List String := ["href", "title", "rel"]

def allowedSchemes : List String := ["http", "https", "mailto"]

def brokenElements : List String := [
  "address", "article", "aside", "blockquote", "details", "dialog", "dd", "div", "dl", "dt", "fieldset",
  "figcaption", "figure", "footer", "form", "h1", "h2", "h3", "h4", "h5", "h6", "header", "hgroup", "hr",
  "li", "main", "nav", "ol", "p", "pre", "section", "table", "ul"]

def scheme? (address : List Char) : Option (List Char) :=
  match Text.distanceTo? [':'] address with
  | none => none
  | some n =>
    let scheme := address.take n
    if scheme.head?.any Char.isAlpha &&
        scheme.all fun c => c.isAlphanum || c == '+' || c == '-' || c == '.' then
      some scheme
    else none

def isHarmless (address : String) : Bool :=
  let bare := address.toList.filter fun c =>
    !(Text.isBlank c || decide (c.toNat ≤ 0x20) || c == '\x60' ||
      (decide (0x7f ≤ c.toNat) && decide (c.toNat ≤ 0xa0)) || c == replacement)
  match scheme? (Text.lower (String.ofList bare)).toList with
  | some scheme => allowedSchemes.contains (String.ofList scheme)
  | none => true

def safeAttributes (name : String) (attributes : List (String × String)) : List (String × String) :=
  if name == "a" then
    attributes.filter fun (key, value) =>
      allowedAttributes.contains key && (key != "href" || isHarmless value)
  else []

/-- The tokens that are kept.  `begun` tells whether there was a tag before. -/
def safeTokens (begun : Bool) : List Token → List Token
  | [] => []
  | .text content :: rest => .text content :: safeTokens begun rest
  | .comment :: rest => safeTokens begun rest
  | .stop name :: rest =>
    if allowedElements.contains name then .stop name :: safeTokens true rest else safeTokens true rest
  | .start name attributes closed :: rest =>
    if allowedElements.contains name then
      .start name (safeAttributes name attributes) closed :: safeTokens true rest
    else if begun && brokenElements.contains name then .text ['\n'] :: safeTokens true rest
    else safeTokens true rest

def endsParagraph (name : String) : Bool := ["p", "ul", "ol", "li", "blockquote", "pre"].contains name

/-- Opens an element after others are closed in which it cannot be. -/
def OpenElements.startSafe (s : OpenElements) (name : String) (attributes : List (String × String)) : OpenElements :=
  let s := if name == "li" then s.close "li" fun n => n == "ul" || n == "ol" else s
  let s := if name == "a" then s.close "a" fun _ => false else s
  let s := if endsParagraph name then s.close "p" fun n => n == "li" || n == "blockquote" else s
  s.start name attributes false

def safeTree (cs : List Char) : List Node :=
  ((safeTokens false (tokens (fun _ => false) cs)).foldl (fun (s : OpenElements) token =>
    match token with
    | .text content => s.add (.text content)
    | .start name attributes _ => s.startSafe name attributes
    | .stop name => s.close name fun _ => false
    | .comment => s) {}).finish

end StreamBot.Html
