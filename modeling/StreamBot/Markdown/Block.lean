import StreamBot.Markdown.Line

/-! # Blocks of Markdown

A text is a sequence of blocks: paragraphs, headings, code, quotes, lists and so on.  Quotes and items hold
blocks themselves: the lines that can belong to one are read without its marks.  A paragraph goes on
with lines that lack the marks.
-/

namespace StreamBot.Markdown

inductive Block where
  | paragraph (text : List Char)
  | heading (level : Nat) (text : List Char)
  | code (language : List Char) (text : List Char)
  | html (text : List Char)
  | rule
  | quote (blocks : List Block)
  /-- A list; the number of its first item, if its items have numbers.  Between the items of a tight list
  there is no space. -/
  | list (start : Option Nat) (tight : Bool) (items : List (List Block))
  | table (head : List (List Char)) (rows : List (List (List Char)))

structure Blocks where
  blocks : List Block := []
  definitions : List Definition := []
  used : Nat := 0
  spaced : Bool := false

structure Items where
  items : List (List Block) := []
  definitions : List Definition := []
  used : Nat := 0
  tight : Bool := true

def joinLines (lines : List Line) : List Char := Text.glue ['\n'] (lines.map (·.text))

def joinEnded (lines : List Line) : List Char :=
  lines.flatMap fun l => l.text ++ (if l.ended then ['\n'] else [])

def Line.dedent (l : Line) (n : Nat) : Line := { l with text := l.text.drop (min n l.indent) }

/-- The number of lines with which a paragraph goes on, and the level of the heading that it becomes by an
underline behind them. -/
def continuation : List Line → Nat × Option Nat
  | [] => (0, none)
  | l :: rest =>
    if l.isBlank then (0, none)
    else
      let more := continuation rest
      if l.isCode then (more.1 + 1, more.2)
      else match if l.reach = .inside then underline? l.body else none with
        | some level => (0, some level)
        | none =>
          if l.reach ≠ .unmarked ∧ l.interrupts then (0, none) else (more.1 + 1, more.2)

/-- The number of lines with which a paragraph goes on that is no heading. -/
def plainContinuation : List Line → Nat
  | [] => 0
  | l :: rest =>
    if l.isBlank || (!l.isCode && l.reach != .unmarked && l.interrupts) then 0
    else plainContinuation rest + 1

/-- The lines of code that is indented, without the blank ones at the end. -/
def indentedCode : List Line → List Line
  | [] => []
  | l :: rest =>
    if l.isBlank then
      match indentedCode rest with
      | [] => []
      | more => l :: more
    else if l.reach = .inside ∧ 4 ≤ l.indent then l :: indentedCode rest
    else []

def fencedCode (mark : Char) (length : Nat) : List Line → List Line × Bool
  | [] => ([], false)
  | l :: rest =>
    let body := l.body
    let n := Text.runOf (· == mark) body
    if l.reach ≠ .inside ∧ !l.isBlank then ([], false)
    else if !l.isCode && decide (length ≤ n) && (body.drop n).all isSpace then ([], true)
    else
      let (more, closed) := fencedCode mark length rest
      (l :: more, closed)

/-- The number of lines of a block of HTML behind its first one. -/
def htmlLines (stop : HtmlEnd) : List Line → Nat
  | [] => 0
  | l :: rest =>
    if l.reach ≠ .inside ∧ !l.isBlank then 0
    else if stop.holds l.text then if l.isBlank then 0 else 1
    else htmlLines stop rest + 1

/-- The lines of a quote without its marks.  `blank` tells whether there is nothing on the line before. -/
def quoteLines (blank : Bool) : List Line → List Line
  | [] => []
  | l :: rest =>
    let body := l.body
    if l.isBlank then []
    else if l.reach = .inside ∧ body.head? = some '>' ∧ !l.isCode then
      let inside := expandTabs (l.indent + 1) body.tail
      let inside := if inside.head? = some ' ' then inside.tail else inside
      let line : Line := { l with text := inside }
      line :: quoteLines line.isBlank rest
    else if blank || l.interrupts then []
    else { l with reach := .unmarked } :: quoteLines false rest

def tableRows : List Line → List Line
  | [] => []
  | l :: rest =>
    if l.reach ≠ .inside ∨ l.isBlank ∨ l.isCode ∨ l.interrupts then [] else l :: tableRows rest

def fitCells (columns : Nat) (cells : List (List Char)) : List (List Char) :=
  (cells ++ List.replicate columns []).take columns

def table? : List Line → Option (Block × Nat)
  | first :: second :: rest =>
    if first.isCode || second.isCode || second.reach != .inside || !first.text.contains '|' then none
    else
      match columns? second.body with
      | none => none
      | some columns =>
        let head := rowCells first.body
        if head.length ≠ columns then none
        else
          let rows := tableRows rest
          some (.table head (rows.map fun l => fitCells columns (rowCells l.body)), rows.length + 2)
  | _ => none

mutual

/-- The blocks at the beginning of some lines, up to a line that does not belong to them. -/
def blocks (tables : Bool) : Nat → List Line → Blocks
  | 0, lines => { used := lines.length }
  | fuel + 1, lines =>
    let blank := (lines.takeWhile Line.isBlank).length
    match lines.drop blank with
    | [] => { used := lines.length }
    | first :: rest =>
      if first.reach ≠ .inside then { used := blank }
      else
        let one := block tables fuel first rest
        let used := max one.used 1
        let behind := (first :: rest).drop used
        let more := blocks tables fuel behind
        let gap := behind.head?.any Line.isBlank || ((first :: rest)[used - 1]?).any Line.isBlank
        { blocks := one.blocks ++ more.blocks
          definitions := one.definitions ++ more.definitions
          used := blank + used + more.used
          spaced := (gap && !more.blocks.isEmpty) || more.spaced }

def block (tables : Bool) : Nat → Line → List Line → Blocks
  | 0, _, _ => { used := 1 }
  | fuel + 1, first, rest =>
    let body := first.body
    match if tables then table? (first :: rest) else none with
    | some (b, used) => { blocks := [b], used }
    | none =>
    if first.isCode then
      let lines := indentedCode (first :: rest)
      { blocks := [.code [] (joinLines (lines.map (·.dedent 4)) ++ ['\n'])], used := lines.length }
    else match fence? body with
    | some (mark, length, info) =>
      let (lines, closed) := fencedCode mark length rest
      let language := (Text.trim (unescapeAll info)).takeWhile fun c => !Text.isBlank c
      { blocks := [.code language (joinEnded (lines.map (·.dedent first.indent)))]
        used := lines.length + (if closed then 2 else 1) }
    | none =>
    if body.head? = some '>' then
      let inner := blocks tables fuel (quoteLines false (first :: rest))
      { inner with blocks := [.quote inner.blocks], spaced := false }
    else if isRule body then { blocks := [.rule], used := 1 }
    else match itemMark? body with
    | some mark =>
      let found := items tables fuel mark.kind false (first :: rest)
      let start := match mark.kind with
        | .bullet _ => none
        | .numbered _ => some mark.number
      { blocks := [.list start found.tight found.items], definitions := found.definitions,
        used := found.used }
    | none =>
    match definition? (Text.trim (joinLines (first :: rest.take (plainContinuation rest)))) with
    | some (definition, used) => { definitions := [definition], used }
    | none =>
    match htmlEnd? body with
    | some (stop, _) =>
      let used := if stop.holds first.text then 1 else 1 + htmlLines stop rest
      { blocks := [.html (joinEnded ((first :: rest).take used))], used }
    | none =>
    match heading? body with
    | some (level, text) => { blocks := [.heading level text], used := 1 }
    | none =>
    let (count, level?) := continuation rest
    match level? with
    | some level =>
      { blocks := [.heading level (Text.trim (joinLines (first :: rest.take count)))], used := count + 2 }
    | none =>
      let count := plainContinuation rest
      { blocks := [.paragraph (Text.trim (joinLines (first :: rest.take count)))], used := count + 1 }

/-- The items of a list of some kind.  `blankEnd` tells whether the item before ends with a blank line. -/
def items (tables : Bool) : Nat → ListKind → Bool → List Line → Items
  | 0, _, _, _ => {}
  | _, _, _, [] => {}
  | fuel + 1, kind, blankEnd, first :: rest =>
    match if first.reach = .inside ∧ !first.isCode ∧ !first.isBlank ∧ !isRule first.body then
        itemMark? first.body else none with
    | none => {}
    | some mark =>
      if mark.kind ≠ kind then {}
      else
        let column := first.indent + mark.width
        let content := expandTabs column (first.body.drop mark.width)
        let space := Text.runOf (· == ' ') content
        let isEmpty := content.all isSpace
        let space := if isEmpty ∨ 4 < space then 1 else space
        let width := column + space
        let inside := { first with text := content.drop space } :: rest.map fun l =>
          if l.isBlank then { l with text := [], reach := .inside }
          else if l.reach = .inside ∧ width ≤ l.indent then l.dedent width
          else if l.reach = .inside then { l with reach := .outdented }
          else l
        let inner :=
          if isEmpty ∧ rest.head?.any Line.isBlank then { used := min 2 (rest.length + 1) }
          else blocks tables fuel inside
        let used := max inner.used 1
        let more := items tables fuel kind
          (decide (1 < used) && ((first :: rest)[used - 1]?).any Line.isBlank) ((first :: rest).drop used)
        { items := inner.blocks :: more.items
          definitions := inner.definitions ++ more.definitions
          used := used + more.used
          tight := !inner.spaced && !blankEnd && more.tight }

end

def blocksOf (tables : Bool) (cs : List Char) : Blocks :=
  let lines := linesOf cs
  blocks tables (cs.length + lines.length + 8) lines

end StreamBot.Markdown
