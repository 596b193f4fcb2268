import StreamBot.Html.Links
import StreamBot.Markdown.Block
import StreamBot.Markdown.Inline

/-! # Markdown as HTML and as plain text -/

namespace StreamBot.Markdown

open Html (escapeQuoted)

mutual

def Inline.bare : Inline → List Char
  | .text content => content
  | .code content => content
  | .html _ => []
  | .softBreak => ['\n']
  | .hardBreak => ['\n']
  | .emphasis children => bareAll children
  | .strong children => bareAll children
  | .struck children => bareAll children
  | .link _ _ children => bareAll children
  | .image _ _ children => bareAll children

def bareAll : List Inline → List Char
  | [] => []
  | part :: rest => part.bare ++ bareAll rest

end

def titleAttribute (title : List Char) : List Char :=
  if title.isEmpty then [] else " title=\"".toList ++ escapeQuoted title ++ ['"']

def inTags (tag : String) (inside : List Char) : List Char :=
  ("<" ++ tag ++ ">").toList ++ inside ++ ("</" ++ tag ++ ">").toList

mutual

def Inline.toHtml : Inline → List Char
  | .text content => escapeQuoted content
  | .code content => inTags "code" (escapeQuoted content)
  | .html content => content
  | .softBreak => ['\n']
  | .hardBreak => "<br />\n".toList
  | .emphasis children => inTags "em" (allToHtml children)
  | .strong children => inTags "strong" (allToHtml children)
  | .struck children => inTags "s" (allToHtml children)
  | .link address title children =>
    "<a href=\"".toList ++ escapeQuoted address ++ ['"'] ++ titleAttribute title ++ ['>'] ++
      allToHtml children ++ "</a>".toList
  | .image address title children =>
    "<img src=\"".toList ++ escapeQuoted address ++ "\" alt=\"".toList ++
      escapeQuoted (bareAll children) ++ ['"'] ++ titleAttribute title ++ " />".toList

def allToHtml : List Inline → List Char
  | [] => []
  | part :: rest => part.toHtml ++ allToHtml rest

end

def inlineHtml (definitions : List Definition) (cs : List Char) : List Char :=
  allToHtml (inlines definitions cs)

def rowHtml (definitions : List Definition) (cell : String) (cells : List (List Char)) : List Char :=
  "<tr>\n".toList ++ cells.flatMap (fun c => inTags cell (inlineHtml definitions c) ++ ['\n']) ++
    "</tr>\n".toList

/-- A block begins with a tag before which there is a line end. -/
def Block.startsLine : Block → Bool
  | .code _ _ | .html _ => false
  | _ => true

def Block.isParagraph : Block → Bool
  | .paragraph _ => true
  | _ => false

mutual

def Block.toHtml (definitions : List Definition) : Block → List Char
  | .paragraph text => inTags "p" (inlineHtml definitions text) ++ ['\n']
  | .heading level text => inTags s!"h{level}" (inlineHtml definitions text) ++ ['\n']
  | .code language text =>
    let kind := if language.isEmpty then []
      else " class=\"language-".toList ++ escapeQuoted language ++ ['"']
    "<pre><code".toList ++ kind ++ ['>'] ++ escapeQuoted text ++ "</code></pre>\n".toList
  | .html text => text
  | .rule => "<hr />\n".toList
  | .quote inner =>
    "<blockquote>".toList ++ (if inner.isEmpty then [] else '\n' :: blocksToHtml definitions inner) ++
      "</blockquote>\n".toList
  | .list start tight items =>
    let (opening, closing) := match start with
      | none => ("<ul>\n", "</ul>\n")
      | some 1 => ("<ol>\n", "</ol>\n")
      | some n => (s!"<ol start=\"{n}\">\n", "</ol>\n")
    opening.toList ++ itemsToHtml definitions tight items ++ closing.toList
  | .table head rows =>
    "<table>\n<thead>\n".toList ++ rowHtml definitions "th" head ++ "</thead>\n".toList ++
      (if rows.isEmpty then [] else
        "<tbody>\n".toList ++ rows.flatMap (rowHtml definitions "td") ++ "</tbody>\n".toList) ++
      "</table>\n".toList

def blocksToHtml (definitions : List Definition) : List Block → List Char
  | [] => []
  | b :: rest => b.toHtml definitions ++ blocksToHtml definitions rest

/-- The blocks of an item of a tight list as HTML: paragraphs have no tags. -/
def tightToHtml (definitions : List Definition) (afterText : Bool) : List Block → List Char
  | [] => []
  | .paragraph text :: rest => inlineHtml definitions text ++ tightToHtml definitions true rest
  | b :: rest =>
    (if afterText && b.startsLine then ['\n'] else []) ++ b.toHtml definitions ++
      tightToHtml definitions false rest

def itemsToHtml (definitions : List Definition) (tight : Bool) : List (List Block) → List Char
  | [] => []
  | item :: rest =>
    let bare := item.isEmpty || (tight && item.head?.any Block.isParagraph)
    "<li>".toList ++ (if bare then [] else ['\n']) ++
      (if tight then tightToHtml definitions false item else blocksToHtml definitions item) ++
      "</li>\n".toList ++ itemsToHtml definitions tight rest

end

/-- A text with unified line ends in which no character is zero. -/
def normalSource (s : String) : List Char :=
  (Text.unifyLineEnds s.toList).map fun c => if c.toNat = 0 then Html.replacement else c

def toHtml (tables : Bool) (s : String) : List Char :=
  let parsed := blocksOf tables (normalSource s)
  blocksToHtml parsed.definitions parsed.blocks

def toSafeHtml (s : String) : String :=
  if s.isEmpty then "" else String.ofList (Html.sanitize (toHtml false s))

def toText (s : String) : String :=
  if s.isEmpty then "" else String.ofList (Html.plainText (toHtml true s))

end StreamBot.Markdown
