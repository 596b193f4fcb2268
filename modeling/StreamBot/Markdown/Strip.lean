import StreamBot.Text.Lines

/-! # Plain text from Markdown by simple rules

Each rule removes one kind of mark wherever its shape occurs, without a grammar of the whole document.  The
rules are applied one after the other, each to the result of the one before.
-/

namespace StreamBot.Markdown

open Text

def fence : Matcher := fun before cs =>
  if atLineStart before && (['`', '`', '`'].isPrefixOf cs || ['~', '~', '~'].isPrefixOf cs) then
    Match.ofLength? (runOf (· != '\n') cs) []
  else none

/-- A label in brackets and an address in parentheses at the front, and their length together. -/
def linkParts? (emptyLabel : Bool) (cs : List Char) : Option (List Char × List Char × Nat) :=
  match cs with
  | '[' :: rest =>
    let label := rest.takeWhile (· != ']')
    match rest.drop label.length with
    | ']' :: '(' :: tail =>
      let address := tail.takeWhile (· != ')')
      match tail.drop address.length with
      | ')' :: _ =>
        if address.isEmpty || (label.isEmpty && !emptyLabel) then none
        else some (label, address, label.length + address.length + 4)
      | _ => none
    | _ => none
  | _ => none

private def inParentheses (label address : List Char) : List Char :=
  label ++ [' ', '('] ++ address ++ [')']

def image : Matcher := fun _ cs =>
  match cs with
  | '!' :: rest =>
    match linkParts? true rest with
    | some (label, address, n) =>
      let label := trim label
      let address := trim address
      some ⟨n, if label.isEmpty then "[image: ".toList ++ address ++ [']']
        else inParentheses label address⟩
    | none => none
  | _ => none

def link : Matcher := fun _ cs =>
  match linkParts? false cs with
  | some (label, address, n) => Match.ofLength? n (inParentheses (trim label) (trim address))
  | none => none

def autolink : Matcher := fun _ cs =>
  match cs with
  | '<' :: rest =>
    let scheme :=
      if "https://".toList.isPrefixOf rest then 8
      else if "http://".toList.isPrefixOf rest then 7
      else 0
    let tail := (rest.drop scheme).takeWhile fun c => c != '>' && !isBlank c
    let address := rest.take (scheme + tail.length)
    if scheme = 0 || tail.isEmpty then none
    else match rest.drop address.length with
      | '>' :: _ => some ⟨address.length + 1, address⟩
      | _ => none
  | _ => none

def between (mark : List Char) (cs : List Char) : Option Match :=
  if mark.isPrefixOf cs then
    let rest := cs.drop mark.length
    match distanceTo? mark rest with
    | some n => Match.ofLength? (n + 2 * mark.length) (rest.take n)
    | none => none
  else none

def strong : Matcher := fun _ cs => (between ['*', '*'] cs).or (between ['_', '_'] cs)

def emphasis : Matcher := fun _ cs => (between ['*'] cs).or (between ['_'] cs)

def strike : Matcher := fun _ cs => between ['~', '~'] cs

/-- At most three blanks at the beginning of a line, and what follows them. -/
def indented (before : Option Char) (cs : List Char) : Option (Nat × List Char) :=
  let n := runOf isBlank cs
  if atLineStart before && decide (n ≤ 3) then some (n, cs.drop n) else none

def heading : Matcher := fun before cs => do
  let (n, rest) ← indented before cs
  let hashes := min 6 (runOf (· == '#') rest)
  if hashes = 0 then none
  Match.ofLength? (n + hashes + runOf isBlank (rest.drop hashes)) []

def blockquote : Matcher := fun before cs => do
  let (n, rest) ← indented before cs
  match rest with
  | '>' :: c :: _ => Match.ofLength? (n + 1 + (if isBlank c then 1 else 0)) []
  | ['>'] => Match.ofLength? (n + 1) []
  | _ => none

/-- The mark before an item, of which all kinds become a dash. -/
def bullet : Matcher := fun before cs => do
  let (n, rest) ← indented before cs
  match rest with
  | c :: tail =>
    let blanks := runOf isBlank tail
    if (c == '-' || c == '+' || c == '*') && decide (0 < blanks) then
      Match.ofLength? (n + 1 + blanks) ['-', ' ']
    else none
  | [] => none

def numbered : Matcher := fun before cs => do
  let (n, rest) ← indented before cs
  let digits := runOf (fun c => (decimalValue? c).isSome) rest
  match rest.drop digits with
  | '.' :: tail =>
    let blanks := runOf isBlank tail
    if digits = 0 || blanks = 0 then none
    Match.ofLength? (n + digits + 1 + blanks) (rest.take (digits + 1) ++ [' '])
  | _ => none

def tag : Matcher := fun _ cs =>
  match cs with
  | '<' :: rest =>
    let slash := runOf (· == '/') (rest.take 1)
    match rest.drop slash with
    | c :: tail =>
      if c == '>' || c == '/' || isBlank c then none
      else
        let inside := runOf (· != '>') tail
        match tail.drop inside with
        | '>' :: _ => some ⟨slash + inside + 2, []⟩
        | _ => none
    | [] => none
  | _ => none

def entityName (cs : List Char) : Nat :=
  match cs with
  | '#' :: rest =>
    match runOf (fun c => (decimalValue? c).isSome) rest with
    | 0 =>
      match rest with
      | 'x' :: hex =>
        match runOf (fun c => (hexDigit? c).isSome) hex with
        | 0 => 0
        | n => n + 2
      | _ => 0
    | n => n + 1
  | c :: rest =>
    if c.isAlpha then
      match runOf Char.isAlphanum rest with
      | 0 => 0
      | n => n + 1
    else 0
  | [] => 0

def entity : Matcher := fun _ cs =>
  match cs with
  | '&' :: rest =>
    match entityName rest with
    | 0 => none
    | n =>
      match rest.drop n with
      | ';' :: _ => some ⟨n + 1, []⟩
      | _ => none
  | _ => none

def rules : List Matcher := [
  fence, image, link, autolink, strong, emphasis, strike, heading, blockquote, bullet, numbered, tag,
  entity]

def strip (s : String) : String :=
  String.ofList (tidyChars (rules.foldl (fun cs rule => substitute rule cs) s.toList))

end StreamBot.Markdown
