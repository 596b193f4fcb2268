import StreamBot.Decimal.Binary
import StreamBot.Json.Basic
import StreamBot.Text.Search

/-! # Reading JSON texts

Every step of the reader consumes a character before it reads a nested value, so the length of the text
bounds the depth of nesting.
-/

namespace StreamBot
namespace Json.Reader

/-- The four characters between the words of a document. -/
def isSpace (c : Char) : Bool := c == ' ' || c == '\n' || c == '\r' || c == '\t'

def skip (cs : List Char) : List Char := cs.dropWhile isSpace

def unit? : List Char → Option (Nat × List Char)
  | a :: b :: c :: d :: rest => do
    return ((← Text.hexDigit? a) * 4096 + (← Text.hexDigit? b) * 256 + (← Text.hexDigit? c) * 16 + (← Text.hexDigit? d),
      rest)
  | _ => none

def simpleEscape? : Char → Option Char
  | '"' => some '"'
  | '/' => some '/'
  | 'n' => some '\n'
  | 'r' => some '\r'
  | 't' => some '\t'
  | 'b' => some '\x08'
  | 'f' => some '\x0c'
  | c => if c = '\x5c' then some c else none

/-- A text behind its opening quote; `acc` are the characters read, the last one first. -/
def string (fuel : Nat) (acc : List Char) (cs : List Char) : Option (String × List Char) :=
  match fuel, cs with
  | 0, _ | _, [] => none
  | fuel + 1, c :: rest =>
    if c = '"' then some (String.ofList acc.reverse, rest)
    else if c = '\x5c' then
      match rest with
      | 'u' :: rest => do
        let (high, rest) ← unit? rest
        match rest with
        | b :: 'u' :: more =>
          if b = '\x5c' ∧ 0xD800 ≤ high ∧ high < 0xDC00 then do
            let (low, more) ← unit? more
            string fuel (Char.ofNat (0x10000 + (high - 0xD800) * 1024 + (low - 0xDC00)) :: acc) more
          else string fuel (Char.ofNat high :: acc) rest
        | _ => string fuel (Char.ofNat high :: acc) rest
      | e :: rest => do string fuel ((← simpleEscape? e) :: acc) rest
      | [] => none
    else string fuel (c :: acc) rest

def digitsValue (cs : List Char) : Nat := cs.foldl (fun n c => 10 * n + (c.toNat - 48)) 0

def sign : List Char → Bool × List Char
  | '-' :: rest => (true, rest)
  | cs => (false, cs)

/-- The digits behind a point, if there is one, and the text behind them. -/
def fraction : List Char → Option (List Char) × List Char
  | '.' :: tail => (some (tail.takeWhile Char.isDigit), tail.dropWhile Char.isDigit)
  | cs => (none, cs)

/-- The sign of an exponent, which may be a plus, and the text behind it. -/
def exponentSign : List Char → Bool × List Char
  | '-' :: rest => (true, rest)
  | '+' :: rest => (false, rest)
  | cs => (false, cs)

/-- The exponent of a number, if one is written, and the text behind it. -/
def exponent (cs : List Char) : Option Int × List Char :=
  match cs with
  | e :: rest =>
    if e = 'e' ∨ e = 'E' then
      let (negative, rest) := exponentSign rest
      let n : Int := digitsValue (rest.takeWhile Char.isDigit)
      (some (if negative then -n else n), rest.dropWhile Char.isDigit)
    else (none, cs)
  | [] => (none, cs)

/-- A number: an integer unless it has a point or an exponent. -/
def number (cs : List Char) : Option (Json × List Char) :=
  let (negative, cs) := sign cs
  let (whole, rest) := cs.span Char.isDigit
  if whole.isEmpty then none
  else
    let (decimals?, rest) := fraction rest
    let (power, rest) := exponent rest
    if decimals?.isNone && power.isNone then
      let n : Int := digitsValue whole
      some (.int (if negative then -n else n), rest)
    else
      let decimals := decimals?.getD []
      let shift : Int := power.getD 0 - decimals.length
      some (.float (Decimal.ofDecimal negative (digitsValue (whole ++ decimals)) shift), rest)

def word (w : String) (cs : List Char) : Option (List Char) :=
  if w.toList.isPrefixOf cs then some (cs.drop w.length) else none

mutual

def value (fuel : Nat) (cs : List Char) : Option (Json × List Char) :=
  match fuel with
  | 0 => none
  | fuel + 1 =>
    match skip cs with
    | '\x7b' :: rest =>
      match skip rest with
      | '\x7d' :: rest => some (.obj [], rest)
      | rest => do
        let (fields, rest) ← fields fuel rest
        return (.obj fields, rest)
    | '[' :: rest =>
      match skip rest with
      | ']' :: rest => some (.arr [], rest)
      | rest => do
        let (items, rest) ← items fuel rest
        return (.arr items, rest)
    | '"' :: rest => do
      let (s, rest) ← string (rest.length + 1) [] rest
      return (.str s, rest)
    | 't' :: rest => do return (.bool true, ← word "rue" rest)
    | 'f' :: rest => do return (.bool false, ← word "alse" rest)
    | 'n' :: rest => do return (.null, ← word "ull" rest)
    | rest => number rest

def items (fuel : Nat) (cs : List Char) : Option (List Json × List Char) :=
  match fuel with
  | 0 => none
  | fuel + 1 => do
    let (j, rest) ← value fuel cs
    match skip rest with
    | ',' :: rest => do
      let (more, rest) ← items fuel rest
      return (j :: more, rest)
    | ']' :: rest => return ([j], rest)
    | _ => none

def fields (fuel : Nat) (cs : List Char) : Option (List (String × Json) × List Char) :=
  match fuel with
  | 0 => none
  | fuel + 1 =>
    match skip cs with
    | '"' :: rest => do
      let (k, rest) ← string (rest.length + 1) [] rest
      match skip rest with
      | ':' :: rest => do
        let (j, rest) ← value fuel rest
        match skip rest with
        | ',' :: rest => do
          let (more, rest) ← fields fuel rest
          return ((k, j) :: more, rest)
        | '\x7d' :: rest => return ([(k, j)], rest)
        | _ => none
      | _ => none
    | _ => none

end

end Json.Reader

def Json.parse? (s : String) : Option Json :=
  let cs := s.toList
  match Json.Reader.value (cs.length + 1) cs with
  | some (j, rest) => if (Json.Reader.skip rest).isEmpty then some j else none
  | none => none

end StreamBot
