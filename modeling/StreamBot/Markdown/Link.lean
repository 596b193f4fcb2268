import StreamBot.Html.Reference
import StreamBot.Text.Lines
import StreamBot.Text.Case
import StreamBot.Text.Utf8

/-! # Addresses and titles of links -/

namespace StreamBot.Markdown

open Text (distanceTo? runOf)

/-- An ASCII character that is neither a letter nor a digit nor a control character. -/
def isPunctuation (c : Char) : Bool :=
  let n := c.toNat
  (decide (33 ≤ n) && decide (n ≤ 47)) || (decide (58 ≤ n) && decide (n ≤ 64)) ||
    (decide (91 ≤ n) && decide (n ≤ 96)) || (decide (123 ≤ n) && decide (n ≤ 126))

/-- What a reference to a character stands for, and its length.  The ampersand is already read. -/
def entity? (cs : List Char) : Option (List Char × Nat) :=
  match cs with
  | '#' :: rest =>
    let (base, skipped, most) := match rest with
      | 'x' :: _ | 'X' :: _ => (16, 1, 6)
      | _ => (10, 0, 7)
    let digits := (rest.drop skipped).takeWhile fun c =>
      if base = 16 then (Text.hexDigit? c).isSome else c.isDigit
    if digits.isEmpty || most < digits.length || (rest.drop (skipped + digits.length)).head? != some ';' then
      none
    else
      let n := Text.numberOf base digits
      let valid := !((decide (0xD800 ≤ n) && decide (n ≤ 0xDFFF)) || decide (0x10FFFF < n) || n == 0 ||
        Html.isUnused n || (decide (0x7f ≤ n) && decide (n ≤ 0x9f)))
      some ([if valid then Char.ofNat n else Html.replacement], skipped + digits.length + 2)
  | _ =>
    let name := cs.takeWhile Char.isAlphanum
    if (cs.drop name.length).head? == some ';' then
      (Html.named? name).map fun meaning => (meaning, name.length + 1)
    else none

def unescapeFrom : Nat → List Char → List Char
  | _, [] => []
  | skip + 1, _ :: rest => unescapeFrom skip rest
  | 0, '\\' :: c :: rest =>
    if isPunctuation c then c :: unescapeFrom 1 (c :: rest) else '\\' :: unescapeFrom 0 (c :: rest)
  | 0, '&' :: rest =>
    match entity? rest with
    | some (meaning, n) => meaning ++ unescapeFrom n rest
    | none => '&' :: unescapeFrom 0 rest
  | 0, c :: rest => c :: unescapeFrom 0 rest

def unescapeAll (cs : List Char) : List Char := unescapeFrom 0 cs

def hexByte (b : UInt8) : List Char :=
  let digit (n : Nat) : Char := if n < 10 then Char.ofNat (48 + n) else Char.ofNat (55 + n)
  [digit (b.toNat / 16), digit (b.toNat % 16)]

def isAddressChar (c : Char) : Bool :=
  c.isAlphanum || ";/?:@&=+$,-_.!~*'()#".toList.contains c

def encodeAddress : List Char → List Char
  | [] => []
  | '%' :: a :: b :: rest =>
    if (Text.hexDigit? a).isSome && (Text.hexDigit? b).isSome then '%' :: encodeAddress (a :: b :: rest)
    else "%25".toList ++ encodeAddress (a :: b :: rest)
  | c :: rest =>
    if isAddressChar c then c :: encodeAddress rest
    else (Text.encodeUtf8 c.toString).flatMap (fun b => '%' :: hexByte b) ++ encodeAddress rest

def isValidAddress (address : List Char) : Bool :=
  let s := Text.lower (Text.strip (String.ofList address))
  if ["vbscript:", "javascript:", "file:", "data:"].any (Text.startsWith s) then
    ["data:image/gif;", "data:image/png;", "data:image/jpeg;", "data:image/webp;"].any (Text.startsWith s)
  else true

def bracketedLength? : List Char → Option Nat
  | [] => none
  | '>' :: _ => some 0
  | '<' :: _ => none
  | '\n' :: _ => none
  | '\\' :: c :: rest => if c == '\n' then none else (bracketedLength? rest).map (· + 2)
  | _ :: rest => (bracketedLength? rest).map (· + 1)

/-- The length of an address in which parentheses are balanced. -/
def bareLength (depth : Nat) : List Char → Option Nat
  | [] => if depth = 0 then some 0 else none
  | '\\' :: c :: rest =>
    if c == ' ' then if depth = 0 then some 1 else none else (bareLength depth rest).map (· + 2)
  | c :: rest =>
    if c == ' ' || c.toNat < 0x20 || c.toNat == 0x7f then if depth = 0 then some 0 else none
    else if c == '(' then (bareLength (depth + 1) rest).map (· + 1)
    else if c == ')' then
      match depth with
      | 0 => some 0
      | depth + 1 => (bareLength depth rest).map (· + 1)
    else (bareLength depth rest).map (· + 1)

def destination? (cs : List Char) : Option (List Char × Nat) :=
  match cs with
  | '<' :: rest => (bracketedLength? rest).map fun n => (unescapeAll (rest.take n), n + 2)
  | _ => (bareLength 0 cs).map fun n => (unescapeAll (cs.take n), n)

def titleLength? (closing : Char) : List Char → Option Nat
  | [] => none
  | '\\' :: _ :: rest => (titleLength? closing rest).map (· + 2)
  | c :: rest =>
    if c == closing then some 0
    else if c == '(' && closing == ')' then none
    else (titleLength? closing rest).map (· + 1)

def title? (cs : List Char) : Option (List Char × Nat) := do
  let c :: rest := cs | none
  let closing ← if c == '"' then some '"' else if c == '\x27' then some '\x27'
    else if c == '(' then some ')' else none
  let n ← titleLength? closing rest
  return (unescapeAll (rest.take n), n + 2)

def isLinkSpace (c : Char) : Bool := c == ' ' || c == '\t' || c == '\n'

/-- The address and the title of a link behind its opening parenthesis, and their length with the closing
one. -/
def inlineTarget? (cs : List Char) : Option (List Char × List Char × Nat) := do
  let before := runOf isLinkSpace cs
  let rest := cs.drop before
  let (address, n) ← match destination? rest with
    | some (address, n) =>
      let encoded := encodeAddress address
      if isValidAddress encoded then some (encoded, n) else some ([], 0)
    | none => some ([], 0)
  let behind := rest.drop n
  let gap := runOf isLinkSpace behind
  let (title, m) := match title? (behind.drop gap) with
    | some (title, m) => if gap != 0 && n != 0 then (title, gap + m) else ([], 0)
    | none => ([], 0)
  let behind := behind.drop m
  let last := runOf isLinkSpace behind
  match behind.drop last with
  | ')' :: _ => some (address, title, before + n + m + last + 1)
  | _ => none

structure Definition where
  label : String
  address : List Char
  title : List Char

def normalLabel (cs : List Char) : String :=
  let words := (Text.pieces [' '] (cs.map fun c => if Text.isBlank c then ' ' else c)).filter (!·.isEmpty)
  Text.upper (Text.lower (String.ofList (Text.glue [' '] words)))

def labelLength? : List Char → Option Nat
  | [] => none
  | '[' :: _ => none
  | ']' :: _ => some 0
  | '\\' :: _ :: rest => (labelLength? rest).map (· + 2)
  | _ :: rest => (labelLength? rest).map (· + 1)

/-- The rest of a line is blank: the length up to the line end. -/
def restBlank? (cs : List Char) : Option Nat :=
  let n := runOf (fun c => c == ' ' || c == '\t') cs
  match cs.drop n with
  | [] => some n
  | '\n' :: _ => some n
  | _ => none

/-- A definition at the beginning of a text, and the number of lines it takes. -/
def definition? (cs : List Char) : Option (Definition × Nat) := do
  let '[' :: inside := cs | none
  let n ← labelLength? inside
  let ':' :: rest := inside.drop (n + 1) | none
  let label := normalLabel (inside.take n)
  if label.isEmpty then none
  let gap := runOf isLinkSpace rest
  let (address, m) ← destination? (rest.drop gap)
  if m = 0 || !isValidAddress (encodeAddress address) then none
  let upToAddress := n + 3 + gap + m
  let behind := cs.drop upToAddress
  let gap := runOf isLinkSpace behind
  let titled := if gap = 0 then none else do
    let (title, k) ← title? (behind.drop gap)
    let blank ← restBlank? (behind.drop (gap + k))
    some (title, upToAddress + gap + k + blank)
  let (title, length) ← titled.or do
    let blank ← restBlank? behind
    some ([], upToAddress + blank)
  let lines := ((cs.take length).filter (· == '\n')).length + 1
  return (⟨label, encodeAddress address, title⟩, lines)

end StreamBot.Markdown
