import StreamBot.Markdown.Link
import StreamBot.Markdown.Tag

/-! # Markdown inside of a paragraph

A text is read as a sequence of pieces: characters, code, links, images, HTML, line ends and runs of
delimiters.  Then pairs of delimiters are matched, and what is between them is emphasised or struck out.
-/

namespace StreamBot.Markdown

open Text (runOf distanceTo?)

inductive Inline where
  | text (content : List Char)
  | code (content : List Char)
  | html (content : List Char)
  | softBreak
  | hardBreak
  | emphasis (children : List Inline)
  | strong (children : List Inline)
  | struck (children : List Inline)
  | link (address title : List Char) (children : List Inline)
  | image (address title : List Char) (children : List Inline)
  deriving Repr

structure Run where
  mark : Char
  /-- How many delimiters are left, and how many there were. -/
  count : Nat
  length : Nat
  opens : Bool
  closes : Bool
  deriving Repr

inductive Atom where
  | char (c : Char)
  /-- A character that is never part of white space at the end of a line. -/
  | special (c : Char)
  | node (inline : Inline)
  | lineEnd
  | run (run : Run)

def isGap (c : Option Char) : Bool := c.all Text.isBlank

def isMark (c : Option Char) : Bool :=
  c.any fun c => isPunctuation c ||
    (decide (0x80 ≤ c.toNat) && !Text.isWordChar c && !Text.isBlank c && isGeneralPunctuation c)
where
  isGeneralPunctuation (c : Char) : Bool :=
    let n := c.toNat
    n == 0xa1 || n == 0xa7 || n == 0xab || n == 0xb6 || n == 0xb7 || n == 0xbb || n == 0xbf ||
      (decide (0x2010 ≤ n) && decide (n ≤ 0x2027)) || (decide (0x2030 ≤ n) && decide (n ≤ 0x205e)) ||
      (decide (0x3001 ≤ n) && decide (n ≤ 0x3003)) || (decide (0x3008 ≤ n) && decide (n ≤ 0x3011))

/-- Whether a run between two characters can open and close. -/
def flanks (splitsWords : Bool) (before behind : Option Char) : Bool × Bool :=
  let left := !isGap behind && (!isMark behind || isGap before || isMark before)
  let right := !isGap before && (!isMark before || isGap behind || isMark behind)
  if splitsWords then (left, right)
  else (left && (!right || isMark before), right && (!left || isMark behind))

def codeSpan? (cs : List Char) : Option (List Char × Nat) :=
  let n := runOf (· == '\x60') cs
  closing n cs.length n (cs.drop n)
where
  closing (n : Nat) : Nat → Nat → List Char → Option (List Char × Nat)
    | 0, _, _ => none
    | fuel + 1, start, rest =>
      match distanceTo? ['\x60'] rest with
      | none => none
      | some k =>
        let m := runOf (· == '\x60') (rest.drop k)
        if m = n then
          let content := ((cs.take (start + k)).drop n).map fun c => if c == '\n' then ' ' else c
          let padded := decide (2 < content.length) && content.head? == some ' ' &&
            content.getLast? == some ' ' && content.any (· != ' ')
          some (if padded then content.tail.dropLast else content, start + k + n)
        else closing n fuel (start + k + m) (rest.drop (k + m))

def autolink? (cs : List Char) : Option (Inline × Nat) := do
  let '<' :: rest := cs | none
  let n ← distanceTo? ['>'] rest
  let inside := rest.take n
  let scheme := inside.takeWhile fun c => c.isAlphanum || c == '+' || c == '.' || c == '-'
  let isAddress := inside.head?.any Char.isAlpha && decide (2 ≤ scheme.length) &&
    decide (scheme.length ≤ 32) && (inside.drop scheme.length).head? == some ':' &&
    inside.all fun c => decide (0x20 < c.toNat) && c != '<' && c != '>'
  if isAddress then
    let address := encodeAddress inside
    if isValidAddress address then return (.link address [] [.text inside], n + 2) else none
  else
    let user := inside.takeWhile (· != '@')
    let host := inside.drop (user.length + 1)
    let isUser := !user.isEmpty &&
      user.all fun c => c.isAlphanum || ".!#$%&'*+/=?^_\x60\x7b|\x7d~-".toList.contains c
    let isHost := (Text.pieces ['.'] host).all fun label =>
      !label.isEmpty && decide (label.length ≤ 63) && label.all (fun c => c.isAlphanum || c == '-') &&
        label.head? != some '-' && label.getLast? != some '-'
    if isUser && isHost && inside.contains '@' then
      return (.link ("mailto:".toList ++ encodeAddress inside) [] [.text inside], n + 2)
    else none

def isSpecial (c : Char) : Bool := "\n\\\x60*_~[]!<&".toList.contains c

/-! ### Matching delimiters -/

/-- What is read so far: texts and other parts, and runs that can still open something, the last one
first. -/
inductive Entry where
  | part (inline : Inline)
  | opener (run : Run)

/-- The delimiters of a run that opens nothing. -/
def Entry.inline : Entry → Inline
  | .part inline => inline
  | .opener run => .text (List.replicate run.count run.mark)

/-- Two runs can be matched: if one of them can both open and close, their lengths must not add up to a
multiple of three, unless each is one. -/
def Run.fits (opener closer : Run) : Bool :=
  opener.mark == closer.mark && opener.opens &&
    (!(opener.closes || closer.opens) || opener.mark == '~' ||
      (opener.length + closer.length) % 3 != 0 || (opener.length % 3 == 0 && closer.length % 3 == 0))

/-- Divides the entries at the last run that fits: those behind it in order, the run, and those before it. -/
def findOpener? (closer : Run) (behind : List Inline) :
    List Entry → Option (List Inline × Run × List Entry)
  | [] => none
  | .opener run :: rest =>
    if run.fits closer then some (behind, run, rest)
    else findOpener? closer ((Entry.opener run).inline :: behind) rest
  | .part inline :: rest => findOpener? closer (inline :: behind) rest

/-- Matches a run with the runs before it.  Fuel is its count. -/
def closeRun : Nat → Run → List Entry → List Entry
  | 0, run, entries => pushRun run entries
  | fuel + 1, run, entries =>
    if run.count = 0 then entries
    else if !run.closes then pushRun run entries
    else match findOpener? run [] entries with
      | none => pushRun run entries
      | some (inside, opener, before) =>
        let used := if run.mark == '~' then 2
          else if 2 ≤ run.count ∧ 2 ≤ opener.count then 2 else 1
        let node := if run.mark == '~' then Inline.struck inside
          else if used = 2 then .strong inside else .emphasis inside
        let opener := { opener with count := opener.count - used }
        let before := if opener.count = 0 then before else .opener opener :: before
        closeRun fuel { run with count := run.count - used } (.part node :: before)
where
  pushRun (run : Run) (entries : List Entry) : List Entry :=
    if run.count = 0 then entries
    else if run.opens then .opener run :: entries
    else .part (.text (List.replicate run.count run.mark)) :: entries

def mergeTexts : List Inline → List Inline
  | [] => []
  | .text a :: rest =>
    match mergeTexts rest with
    | .text b :: more => .text (a ++ b) :: more
    | more => .text a :: more
  | inline :: rest => inline :: mergeTexts rest

/-- The pieces of a text put together.  `pending` are the last characters, the last one first. -/
def assemble (pending : List Char) (entries : List Entry) : List Atom → List Entry
  | [] => flush pending entries
  | .char c :: rest => assemble (c :: pending) entries rest
  | .special c :: rest => assemble [] (.part (.text [c]) :: flush pending entries) rest
  | .node inline :: rest => assemble [] (.part inline :: flush pending entries) rest
  | .lineEnd :: rest =>
    let blanks := runOf (· == ' ') pending
    let line := if 2 ≤ blanks then Inline.hardBreak else .softBreak
    assemble [] (.part line :: flush (pending.drop blanks) entries) rest
  | .run run :: rest =>
    let entries := flush pending entries
    if run.mark == '~' ∧ run.count % 2 = 1 then
      assemble [] (closeRun run.count { run with count := run.count - 1 }
        (.part (.text ['~']) :: entries)) rest
    else assemble [] (closeRun run.count run entries) rest
where
  flush (pending : List Char) (entries : List Entry) : List Entry :=
    if pending.isEmpty then entries else .part (.text pending.reverse) :: entries

def resolve (pieces : List Atom) : List Inline :=
  mergeTexts ((assemble [] [] pieces).reverse.map Entry.inline)

/-! ### Pieces -/

mutual

/-- The piece at the beginning of a text behind a character, and its length. -/
def atom (definitions : List Definition) : Nat → Option Char → List Char → List Atom × Nat
  | _, _, [] => ([], 0)
  | 0, _, c :: _ => ([.char c], 1)
  | fuel + 1, before, c :: rest =>
    let plain : List Atom × Nat := ([.char c], 1)
    if !isSpecial c then plain
    else match c with
    | '\n' => ([.lineEnd], 1 + runOf (fun c => c == ' ' || c == '\t') rest)
    | '\\' =>
      match rest with
      | '\n' :: more => ([.node .hardBreak], 2 + runOf (fun c => c == ' ' || c == '\t') more)
      | d :: _ => if isPunctuation d then ([.special d], 2) else plain
      | [] => plain
    | '\x60' =>
      match codeSpan? (c :: rest) with
      | some (content, n) => ([.node (.code content)], n)
      | none =>
        let n := runOf (· == '\x60') (c :: rest)
        (List.replicate n (.char '\x60'), n)
    | '[' =>
      match link? definitions fuel false rest with
      | some (address, title, children, n) => ([.node (.link address title children)], n + 1)
      | none => plain
    | '!' =>
      match rest with
      | '[' :: more =>
        match link? definitions fuel true more with
        | some (address, title, children, n) => ([.node (.image address title children)], n + 2)
        | none => plain
      | _ => plain
    | '<' =>
      match autolink? (c :: rest) with
      | some (inline, n) => ([.node inline], n)
      | none =>
        match htmlLength? (c :: rest) with
        | some n => ([.node (.html ((c :: rest).take n))], n)
        | none => plain
    | '&' =>
      match entity? rest with
      | some (meaning, n) => (meaning.map .special, n + 1)
      | none => plain
    | ']' => plain
    | mark =>
      let n := runOf (· == mark) (c :: rest)
      let (opens, closes) := flanks (mark != '_') before ((c :: rest).drop n).head?
      if mark == '~' ∧ n < 2 then (List.replicate n (.char mark), n)
      else ([.run ⟨mark, n, n, opens, closes⟩], n)

def atoms (definitions : List Definition) : Nat → Option Char → List Char → List Atom
  | 0, _, _ => []
  | _, _, [] => []
  | fuel + 1, before, c :: rest =>
    let (first, n) := atom definitions fuel before (c :: rest)
    let n := max n 1
    first ++ atoms definitions fuel ((c :: rest).take n).getLast? ((c :: rest).drop n)

/-- The length of the label of a link up to its closing bracket, at some depth of brackets.  A link has no
links in its label. -/
def bracketLength? (definitions : List Definition) (nested : Bool) :
    Nat → Nat → Option Char → List Char → Option Nat
  | 0, _, _, _ => none
  | _, _, _, [] => none
  | fuel + 1, depth, before, c :: rest =>
    if c == ']' && depth == 0 then some 0
    else
      let (_, n) := atom definitions fuel before (c :: rest)
      let n := max n 1
      let depth? :=
        if c == ']' then some (depth - 1)
        else if c == '[' then
          if n = 1 then some (depth + 1) else if nested then some depth else none
        else some depth
      match depth? with
      | none => none
      | some depth =>
        (bracketLength? definitions nested fuel depth ((c :: rest).take n).getLast?
          ((c :: rest).drop n)).map (n + ·)

/-- A link behind its opening bracket: its address, its title, its text, and its length. -/
def link? (definitions : List Definition) (fuel : Nat) (nested : Bool) (cs : List Char) :
    Option (List Char × List Char × List Inline × Nat) :=
  match fuel with
  | 0 => none
  | fuel + 1 =>
    match bracketLength? definitions nested fuel 0 (some '[') cs with
    | none => none
    | some n =>
      let label := cs.take n
      let behind := cs.drop (n + 1)
      let target? : Option (List Char × List Char × Nat) := match behind with
        | '(' :: more => (inlineTarget? more).map fun (address, title, m) => (address, title, n + 2 + m)
        | _ => none
      let target? := target?.or <|
        let referenced : Option (List Char × Nat) := match behind with
          | '[' :: more =>
            match labelLength? more with
            | some m => some (if m = 0 then label else more.take m, n + m + 3)
            | none => none
          | _ => none
        let (key, length) := referenced.getD (label, n + 1)
        (definitions.find? (·.label == normalLabel key)).map fun d => (d.address, d.title, length)
      target?.map fun (address, title, length) =>
        (address, title, resolve (atoms definitions fuel (some '[') label), length)

end

def inlines (definitions : List Definition) (cs : List Char) : List Inline :=
  resolve (atoms definitions (2 * cs.length + 2) none cs)

end StreamBot.Markdown
