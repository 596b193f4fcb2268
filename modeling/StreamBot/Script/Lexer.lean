import StreamBot.Script.Token

/-! # From source text to tokens

`tokenize` reads a source text from left to right.  Blanks separate tokens and are dropped; each token is
as long as possible.  The text ends with its last character or before the first character U+0000 that
stands outside of a string literal.
-/

namespace StreamBot.Script

inductive LexFault where
  | numberFormat
  | afterDot (c : Char)
  | afterDotDot (c : Char)
  | escapeSequence (c : Char)
  | unterminatedString
  | invalidCharacter (c : Char)
  | unexpectedCharacter (c : Char)
  deriving Repr, DecidableEq

def LexFault.message : LexFault → String
  | numberFormat => "Invalid number format at offset."
  | afterDot c => s!"Unexpected character '{c}' after '.'."
  | afterDotDot c => s!"Unexpected character '{c}' after '..'."
  | escapeSequence c => s!"Invalid escape sequence '\\{c}'."
  | unterminatedString => "Unterminated string literal."
  | invalidCharacter c => s!"Invalid character '{c}'."
  | unexpectedCharacter c => s!"Unexpected character '{c}' ({c.toNat})."

structure LexError where
  fault : LexFault
  offset : Nat
  deriving Repr, DecidableEq

namespace Lexer

def endMark : Char := '\x00'

def isNameStart (c : Char) : Bool := c.isAlpha

def isNameChar (c : Char) : Bool := isNameStart c || Text.isDigit c || c == '_'

def runLength (p : Char → Bool) (cs : List Char) : Nat := (cs.takeWhile p).length

/-- The kind of a token and the number of characters it takes behind its first one, or a fault and its
distance from that first character. -/
abbrev Scan := Except (LexFault × Nat) (TokenKind × Nat)

/-- A number behind its first digit: digits, and then perhaps a point and more digits.  A point that is
followed by another one belongs to a range. -/
def scanNumber (rest : List Char) : Scan :=
  let n := runLength Text.isDigit rest
  match rest.drop n with
  | '.' :: tail =>
    if tail.head? = some '.' then .ok (.numberLiteral, n)
    else match runLength Text.isDigit tail with
      | 0 => .error (.numberFormat, n + 2)
      | k => .ok (.numberLiteral, n + 1 + k)
  | _ => .ok (.numberLiteral, n)

/-- A string literal behind its opening quote, of which `n` characters have been read. -/
def scanString (n : Nat) : List Char → Scan
  | [] => .error (.unterminatedString, n + 1)
  | c :: rest =>
    if c = Escape.backslash then
      match rest with
      | [] => .error (.escapeSequence endMark, n + 2)
      | e :: rest =>
        if (Escape.decodeChar? e).isSome then scanString (n + 2) rest
        else .error (.escapeSequence e, n + 2)
    else if c = Escape.quote then .ok (.stringLiteral, n + 1)
    else scanString (n + 1) rest

def scanRange (rest : List Char) : Scan :=
  match rest with
  | '.' :: '=' :: _ => .ok (.dotDotEquals, 2)
  | '.' :: '<' :: _ => .ok (.dotDotLessThan, 2)
  | '.' :: tail => .error (.afterDotDot (tail.head?.getD endMark), 2)
  | _ => .error (.afterDot (rest.head?.getD endMark), 1)

def scanEquals (short long : TokenKind) (rest : List Char) : Scan :=
  if rest.head? = some '=' then .ok (long, 1) else .ok (short, 0)

def scanName (c : Char) (rest : List Char) : Scan :=
  let tail := rest.takeWhile isNameChar
  .ok ((TokenKind.ofWord? (String.ofList (c :: tail))).getD .identifier, tail.length)

/-- The token that begins with the character `c`, which is neither blank nor the end mark. -/
def scan (c : Char) (rest : List Char) : Scan :=
  match TokenKind.ofChar? c with
  | some kind => .ok (kind, 0)
  | none =>
    if Text.isDigit c then scanNumber rest
    else if c = '=' then scanEquals .equals .equalsEquals rest
    else if c = '<' then scanEquals .lessThan .lessThanEquals rest
    else if c = '>' then scanEquals .greaterThan .greaterThanEquals rest
    else if c = '!' then scanEquals .exclamationMark .exclamationMarkEquals rest
    else if c = '.' then scanRange rest
    else if c = Escape.quote then scanString 0 rest
    else if isNameStart c then scanName c rest
    else if c.toNat < 128 then .error (.unexpectedCharacter c, 0)
    else .error (.invalidCharacter c, 0)

/-- The tokens of the part `cs` of a source text that begins at `offset`. -/
def tokensFrom (source : List Char) (offset : Nat) (cs : List Char) : Except LexError (List Token) :=
  let token (kind : TokenKind) (length : Nat) : Token :=
    let span : Span := ⟨offset, length⟩
    ⟨kind, String.ofList (cs.take length), span, span.range source⟩
  match cs with
  | [] => .ok [token .endOfInput 1]
  | c :: rest =>
    if Text.isBlank c then tokensFrom source (offset + 1) rest
    else if c = endMark then .ok [token .endOfInput 1]
    else match scan c rest with
      | .error (fault, n) => .error ⟨fault, offset + n⟩
      | .ok (kind, n) =>
        match tokensFrom source (offset + (n + 1)) (rest.drop n) with
        | .error e => .error e
        | .ok tokens => .ok (token kind (n + 1) :: tokens)
termination_by cs.length
decreasing_by all_goals simp; try omega

end Lexer

/-- The tokens of a source text; the last one is the end of the input. -/
def tokenize (source : String) : Except LexError (List Token) :=
  Lexer.tokensFrom source.toList 0 source.toList

end StreamBot.Script
