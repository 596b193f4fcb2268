import StreamBot.Trigger.Pattern

/-! # Reading patterns

Alternatives are divided by bars, and each is a row of parts.  A part is a character, a set of characters in
brackets, a point for any character or a pattern in parentheses, and may be followed by a number of
repetitions.  A backslash takes away a character's meaning.  What cannot be part of a pattern ends it, and a
pattern that ends before its text does is refused.
-/

namespace StreamBot.Trigger

open Text

structure PatternFault where
  text : String
  index : Nat

def PatternFault.message (f : PatternFault) : String :=
  s!"Could not parse '{f.text}' beyond index {f.index}"

namespace Parser

def special : List Char := "\\[]|().?*+\x7b\x7d".toList

private def digitSet : CodePoints := [(48, 57)]
private def wordSet : CodePoints := [(48, 57), (65, 90), (95, 95), (97, 122)]
private def spaceSet : CodePoints := [(9, 13), (32, 32)]

/-- What a backslash and the characters behind it stand for. -/
def escape : List Char → Option (CodePoints × List Char)
  | [] => none
  | 'd' :: rest => some (digitSet, rest)
  | 'w' :: rest => some (wordSet, rest)
  | 's' :: rest => some (spaceSet, rest)
  | 'D' :: rest => some (complement digitSet, rest)
  | 'W' :: rest => some (complement wordSet, rest)
  | 'S' :: rest => some (complement spaceSet, rest)
  | 't' :: rest => some (oneChar '\t', rest)
  | 'n' :: rest => some (oneChar '\n', rest)
  | 'r' :: rest => some (oneChar '\r', rest)
  | 'v' :: rest => some (oneChar '\x0b', rest)
  | 'f' :: rest => some (oneChar '\x0c', rest)
  | 'x' :: a :: b :: rest => do
    let n := (← hexDigit? a) * 16 + (← hexDigit? b)
    return ([(n, n)], rest)
  | c :: rest => if c.isAlphanum then none else some (oneChar c, rest)

def member : List Char → Option (CodePoints × List Char)
  | [] => none
  | '\x5c' :: rest => escape rest
  | c :: rest => if c == '[' || c == ']' || c == '^' || c == '-' then none else some (oneChar c, rest)

def range (cs : List Char) : Option (CodePoints × List Char) :=
  match member cs with
  | some ([(lo, hi)], '-' :: rest) =>
    match member rest with
    | some ([(_, last)], rest') =>
      if lo ≤ last then some ([(lo, last)], rest') else some ([(lo, hi)], '-' :: rest)
    | _ => some ([(lo, hi)], '-' :: rest)
  | result => result

def members : Nat → List Char → Option (CodePoints × List Char)
  | 0, _ => none
  | _ + 1, ']' :: rest => some ([], rest)
  | fuel + 1, cs => do
    let (set, rest) ← range cs
    let (more, rest) ← members fuel rest
    return (set ++ more, rest)

def character : List Char → Option (CodePoints × List Char)
  | [] => none
  | '.' :: rest => some (complement [], rest)
  | '\x5c' :: rest => escape rest
  | '[' :: '^' :: rest => do
    let (set, after) ← members (rest.length + 1) rest
    return (complement (charSet set), after)
  | '[' :: rest => do
    let (set, after) ← members (rest.length + 1) rest
    return (charSet set, after)
  | c :: rest => if special.contains c then none else some (oneChar c, rest)

def number (cs : List Char) : Option (Nat × List Char) :=
  let digits := cs.takeWhile Char.isDigit
  if digits.isEmpty then none
  else some (digits.foldl (fun n d => n * 10 + (d.toNat - 48)) 0, cs.drop digits.length)

/-- The number of repetitions that follows a part: once if there is none. -/
def repetitions (cs : List Char) : Nat × Option Nat × List Char :=
  match cs with
  | '?' :: rest => (0, some 1, rest)
  | '*' :: rest => (0, none, rest)
  | '+' :: rest => (1, none, rest)
  | '\x7b' :: rest =>
    match number rest with
    | some (n, '\x7d' :: rest) => (n, some n, rest)
    | some (n, ',' :: '\x7d' :: rest) => (n, none, rest)
    | some (n, ',' :: rest) =>
      match number rest with
      | some (m, '\x7d' :: rest) => if n ≤ m then (n, some m, rest) else (1, some 1, cs)
      | _ => (1, some 1, cs)
    | _ => (1, some 1, cs)
  | _ => (1, some 1, cs)

/-- A part some number of times; once is the part itself. -/
def times (part : Pattern) (least : Nat) (most : Option Nat) : Pattern :=
  if least = 1 ∧ most = some 1 then part else .repeated part least most

def row : List Pattern → Pattern
  | [] => .empty
  | [p] => p
  | p :: rest => .seq p (row rest)

def closed : Pattern × List Char → Option (Pattern × List Char)
  | (p, ')' :: rest) => some (.group p, rest)
  | _ => none

/-- One part of a row, without repetitions; `inside` reads what stands in parentheses. -/
def part (inside : List Char → Pattern × List Char) : List Char → Option (Pattern × List Char)
  | '(' :: '?' :: ':' :: rest => closed (inside rest)
  | '(' :: rest => closed (inside rest)
  | cs => (character cs).map fun (set, rest) => (.chars set, rest)

/-- Alternatives; `fuel` bounds the depth of groups and the number of parts. -/
def alternatives (fuel : Nat) (cs : List Char) : Pattern × List Char :=
  go fuel [] cs
where
  /-- Goes on behind the parts of a row that have been read, the last one first. -/
  go (fuel : Nat) (parts : List Pattern) (cs : List Char) : Pattern × List Char :=
    match fuel with
    | 0 => (row parts.reverse, cs)
    | fuel + 1 =>
      match part (go fuel []) cs with
      | some (p, rest) =>
        let (least, most, rest) := repetitions rest
        go fuel (times p least most :: parts) rest
      | none =>
        match cs with
        | '|' :: rest =>
          let (right, rest) := go fuel [] rest
          (.alt (row parts.reverse) right, rest)
        | cs => (row parts.reverse, cs)

end Parser

/-- A text without special characters is a pattern for itself. -/
def Pattern.parse (s : String) : Except PatternFault Pattern :=
  let cs := s.toList
  if !cs.any Parser.special.contains then .ok (.literal s)
  else match Parser.alternatives (2 * cs.length + 1) cs with
    | (p, []) => .ok p
    | (_, rest) => .error ⟨s, cs.length - rest.length⟩

end StreamBot.Trigger
