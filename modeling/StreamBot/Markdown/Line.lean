import StreamBot.Markdown.Link
import StreamBot.Markdown.Tag

/-! # Lines of Markdown

What a line is by itself: a heading, a fence, a rule, an item of a list and so on.
-/

namespace StreamBot.Markdown

open Text (runOf)

/-- Where a line is, seen from the block that is read. -/
inductive Reach where
  | inside
  /-- It is indented too little, and can only go on with a paragraph. -/
  | outdented
  /-- It lacks the mark of a quote, and can only go on with a paragraph. -/
  | unmarked
  deriving Repr, DecidableEq

/-- A line.  Tabs at its beginning are replaced by blanks. -/
structure Line where
  text : List Char
  reach : Reach := .inside
  ended : Bool := true

def isSpace (c : Char) : Bool := c == ' ' || c == '\t'

/-- A text with the tabs at its beginning replaced by blanks up to the next multiple of four columns. -/
def expandTabs (column : Nat) : List Char → List Char
  | ' ' :: rest => ' ' :: expandTabs (column + 1) rest
  | '\t' :: rest =>
    let width := 4 - column % 4
    List.replicate width ' ' ++ expandTabs (column + width) rest
  | cs => cs

def linesOf (cs : List Char) : List Line :=
  let texts := Text.pieces ['\n'] cs
  texts.zipIdx.map fun (text, i) => ⟨expandTabs 0 text, .inside, decide (i + 1 < texts.length)⟩

namespace Line

def indent (l : Line) : Nat := runOf (· == ' ') l.text

def body (l : Line) : List Char := l.text.dropWhile isSpace

def isBlank (l : Line) : Bool := l.text.all isSpace

def isCode (l : Line) : Bool := decide (4 ≤ l.indent) && !l.isBlank

end Line

/-- The mark, the length and the rest of a line that begins code. -/
def fence? (cs : List Char) : Option (Char × Nat × List Char) :=
  match cs with
  | c :: _ =>
    let n := runOf (· == c) cs
    let info := cs.drop n
    if (c == '\x60' || c == '~') && decide (3 ≤ n) && !(c == '\x60' && info.contains '\x60') then
      some (c, n, info)
    else none
  | [] => none

def isRule (cs : List Char) : Bool :=
  match cs with
  | c :: _ =>
    (c == '*' || c == '-' || c == '_') && cs.all (fun d => d == c || isSpace d) &&
      decide (3 ≤ (cs.filter (· == c)).length)
  | [] => false

def heading? (cs : List Char) : Option (Nat × List Char) :=
  let level := runOf (· == '#') cs
  let rest := cs.drop level
  if level = 0 ∨ 6 < level ∨ !rest.head?.all isSpace then none
  else
    let content := (rest.reverse.dropWhile isSpace).reverse
    let hashes := runOf (· == '#') content.reverse
    let before := content.take (content.length - hashes)
    let content := if 0 < hashes ∧ before.getLast?.any isSpace then before else content
    some (level, Text.trim content)

def underline? (cs : List Char) : Option Nat :=
  match cs with
  | c :: _ =>
    let rest := cs.drop (runOf (· == c) cs)
    if (c == '=' || c == '-') && rest.all isSpace then some (if c == '=' then 1 else 2) else none
  | [] => none

/-- The kind of a list: the mark before an item, or the mark behind its number. -/
inductive ListKind where
  | bullet (mark : Char)
  | numbered (mark : Char)
  deriving Repr, DecidableEq

structure ItemMark where
  kind : ListKind
  number : Nat
  width : Nat

def itemMark? (cs : List Char) : Option ItemMark :=
  match cs with
  | [] => none
  | c :: rest =>
    if c == '*' || c == '-' || c == '+' then
      if rest.head?.all isSpace then some ⟨.bullet c, 0, 1⟩ else none
    else
      let digits := cs.takeWhile Char.isDigit
      match cs.drop digits.length with
      | mark :: behind =>
        if !digits.isEmpty && decide (digits.length ≤ 9) && (mark == '.' || mark == ')') &&
            behind.head?.all isSpace then
          some ⟨.numbered mark, Text.numberOf 10 digits, digits.length + 1⟩
        else none
      | [] => none

def htmlBlockNames : List String := [
  "address", "article", "aside", "base", "basefont", "blockquote", "body", "caption", "center", "col",
  "colgroup", "dd", "details", "dialog", "dir", "div", "dl", "dt", "fieldset", "figcaption", "figure",
  "footer", "form", "frame", "frameset", "h1", "h2", "h3", "h4", "h5", "h6", "head", "header", "hr", "html",
  "iframe", "legend", "li", "link", "main", "menu", "menuitem", "nav", "noframes", "ol", "optgroup",
  "option", "p", "param", "search", "section", "summary", "table", "tbody", "td", "tfoot", "th", "thead",
  "title", "tr", "track", "ul"]

inductive HtmlEnd where
  | texts (options : List String)
  | blankLine
  deriving Repr

/-- What ends the block of HTML that begins with a line, and whether it can interrupt a paragraph. -/
def htmlEnd? (cs : List Char) : Option (HtmlEnd × Bool) :=
  let slash := if "</".toList.isPrefixOf cs then 2 else 1
  let named := cs.drop slash
  let name := Text.lower (String.ofList (named.take ((tagNameLength? named).getD 0)))
  let behind := named.drop name.length
  let verbatim := ["script", "pre", "style", "textarea"]
  if cs.head? != some '<' then none
  else if slash = 1 && verbatim.contains name && behind.head?.all (fun c => isTagSpace c || c == '>') then
    some (.texts (verbatim.map fun n => "</" ++ n ++ ">"), true)
  else if "<!--".toList.isPrefixOf cs then some (.texts ["-->"], true)
  else if "<?".toList.isPrefixOf cs then some (.texts ["?>"], true)
  else if "<![CDATA[".toList.isPrefixOf cs then some (.texts ["]]>"], true)
  else if "<!".toList.isPrefixOf cs && (cs[2]?).any Char.isAlpha then some (.texts [">"], true)
  else if htmlBlockNames.contains name &&
      (behind.head?.all isTagSpace || ">".toList.isPrefixOf behind || "/>".toList.isPrefixOf behind) then
    some (.blankLine, true)
  else
    match (openTagLength? cs).or (closeTagLength? cs) with
    | some n => if (cs.drop n).all isTagSpace then some (.blankLine, false) else none
    | none => none

def HtmlEnd.holds (e : HtmlEnd) (cs : List Char) : Bool :=
  match e with
  | .texts options => options.any fun t => Text.occursIn t.toList (Text.lower (String.ofList cs)).toList
  | .blankLine => cs.all isSpace

/-- A line interrupts a paragraph.  An item only does if it is not empty and its list begins with one,
unless it can belong to a list around the paragraph. -/
def Line.interrupts (l : Line) : Bool :=
  let cs := l.body
  !l.isCode &&
    ((fence? cs).isSome || cs.head? == some '>' || isRule cs ||
      (match itemMark? cs with
        | some mark =>
          l.reach != .inside ||
            (!(cs.drop mark.width).all isSpace &&
              (match mark.kind with
                | .bullet _ => true
                | .numbered _ => mark.number == 1))
        | none => false) ||
      (htmlEnd? cs).any (·.2) || (heading? cs).isSome)

/-- The cells of a row, which are divided by bars that have no backslash before them. -/
def cellsFrom (cell : List Char) : List Char → List (List Char)
  | [] => [cell.reverse]
  | '\\' :: '|' :: rest => cellsFrom ('|' :: cell) rest
  | '|' :: rest => cell.reverse :: cellsFrom [] rest
  | c :: rest => cellsFrom (c :: cell) rest

/-- The cells of a row without the empty ones at its ends. -/
def rowCells (cs : List Char) : List (List Char) :=
  let cells := cellsFrom [] (Text.trim cs)
  let cells := if cells.head?.any List.isEmpty then cells.tail else cells
  let cells := if cells.getLast?.any List.isEmpty then cells.dropLast else cells
  cells.map Text.trim

/-- The number of columns of a table, by the line below its head. -/
def columns? (cs : List Char) : Option Nat :=
  let parts := (Text.pieces ['|'] cs).map Text.trim
  let parts := if parts.head?.any List.isEmpty then parts.tail else parts
  let parts := if parts.getLast?.any List.isEmpty then parts.dropLast else parts
  let isColumn (part : List Char) : Bool :=
    let part := if part.head? == some ':' then part.tail else part
    let part := if part.getLast? == some ':' then part.dropLast else part
    !part.isEmpty && part.all (· == '-')
  if decide (2 ≤ cs.length) && cs.all (fun c => c == '|' || c == '-' || c == ':' || isSpace c) &&
      !parts.isEmpty && parts.all isColumn then
    some parts.length
  else none

end StreamBot.Markdown
