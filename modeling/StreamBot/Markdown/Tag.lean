import StreamBot.Text.Lines

/-! # Tags of HTML in Markdown -/

namespace StreamBot.Markdown

open Text (runOf distanceTo?)

def isTagSpace (c : Char) : Bool := c == ' ' || ('\t' ≤ c && c ≤ '\r')

def tagNameLength? : List Char → Option Nat
  | c :: rest => if c.isAlpha then some (1 + runOf (fun c => c.isAlphanum || c == '-') rest) else none
  | [] => none

def attributeValueLength? : List Char → Option Nat
  | '"' :: rest => (distanceTo? ['"'] rest).map (· + 2)
  | '\x27' :: rest => (distanceTo? ['\x27'] rest).map (· + 2)
  | cs =>
    let n := runOf (fun c => !(decide (c.toNat ≤ 0x20) || "\"'=<>\x60".toList.contains c)) cs
    if n = 0 then none else some n

def attributeLength? (cs : List Char) : Option Nat :=
  let space := runOf isTagSpace cs
  match cs.drop space with
  | c :: rest =>
    if space = 0 || !(c.isAlpha || c == '_' || c == ':') then none
    else
      let name := 1 + runOf (fun c => c.isAlphanum || ":._-".toList.contains c) rest
      let behind := cs.drop (space + name)
      let gap := runOf isTagSpace behind
      match behind.drop gap with
      | '=' :: more =>
        let gap' := runOf isTagSpace more
        match attributeValueLength? (more.drop gap') with
        | some n => some (space + name + gap + 1 + gap' + n)
        | none => some (space + name)
      | _ => some (space + name)
  | [] => none

def attributesLength : Nat → List Char → Nat
  | 0, _ => 0
  | fuel + 1, cs =>
    match attributeLength? cs with
    | some n => n + attributesLength fuel (cs.drop n)
    | none => 0

def openTagLength? (cs : List Char) : Option Nat := do
  let '<' :: rest := cs | none
  let name ← tagNameLength? rest
  let attributes := attributesLength cs.length (rest.drop name)
  let behind := rest.drop (name + attributes)
  let space := runOf isTagSpace behind
  match behind.drop space with
  | '/' :: '>' :: _ => some (1 + name + attributes + space + 2)
  | '>' :: _ => some (1 + name + attributes + space + 1)
  | _ => none

def closeTagLength? (cs : List Char) : Option Nat := do
  let '<' :: '/' :: rest := cs | none
  let name ← tagNameLength? rest
  let space := runOf isTagSpace (rest.drop name)
  match rest.drop (name + space) with
  | '>' :: _ => some (2 + name + space + 1)
  | _ => none

def enclosedLength? (opening closing : String) (cs : List Char) : Option Nat :=
  if opening.toList.isPrefixOf cs then
    (distanceTo? closing.toList (cs.drop opening.length)).map (opening.length + · + closing.length)
  else none

def commentLength? (cs : List Char) : Option Nat :=
  if "<!-->".toList.isPrefixOf cs then some 5
  else if "<!--->".toList.isPrefixOf cs then some 6
  else enclosedLength? "<!--" "-->" cs

def declarationLength? (cs : List Char) : Option Nat :=
  match cs with
  | '<' :: '!' :: c :: _ => if c.isAlpha then enclosedLength? "<!" ">" cs else none
  | _ => none

def htmlLength? (cs : List Char) : Option Nat :=
  (openTagLength? cs).or <| (closeTagLength? cs).or <| (commentLength? cs).or <|
    (enclosedLength? "<?" "?>" cs).or <| (enclosedLength? "<![CDATA[" "]]>" cs).or (declarationLength? cs)

end StreamBot.Markdown
