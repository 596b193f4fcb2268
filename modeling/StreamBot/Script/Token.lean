import StreamBot.Text.Lines

/-! # The script language as tokens -/

namespace StreamBot.Script

/-! ## Places in a source text

A span is an interval of characters, counted from zero.  Its range is where it begins and ends in lines
and columns, counted from one.
-/

/-- A line and a column, both counted from one.  Zero stands for a place behind the text. -/
structure Position where
  line : Nat := 0
  column : Nat := 0
  deriving Repr, DecidableEq, Inhabited

/-- From a character to the place just behind the last one. -/
structure Range where
  start : Position := {}
  stop : Position := {}
  deriving Repr, DecidableEq, Inhabited

structure Span where
  offset : Nat
  length : Nat
  deriving Repr, DecidableEq, Inhabited

namespace Span

def lexeme (source : List Char) (s : Span) : List Char :=
  (source.drop s.offset).take s.length

/-- The position of the span's start: the first line that reaches beyond its offset.  `before` is the
number of characters and `line` the number of lines already passed. -/
def startIn (s : Span) (before line : Nat) : List (List Char) → Position
  | [] => {}
  | l :: rest =>
    if s.offset < before + l.length then ⟨line + 1, s.offset - before + 1⟩
    else s.startIn (before + l.length) (line + 1) rest

/-- The position behind the span: in the first line that reaches it. -/
def stopIn (s : Span) (before line : Nat) : List (List Char) → Position
  | [] => {}
  | l :: rest =>
    if s.offset + s.length ≤ before + l.length then ⟨line + 1, s.offset + s.length - before + 1⟩
    else s.stopIn (before + l.length) (line + 1) rest

/-- The number of leading lines up to and including the one in which the span ends. -/
def reach (s : Span) (before : Nat) : List (List Char) → Nat
  | [] => 0
  | l :: rest =>
    if s.offset + s.length ≤ before + l.length then 1 else 1 + s.reach (before + l.length) rest

/-- Where the span begins and ends.  Its start is looked for in the lines up to its end only. -/
def range (source : List Char) (s : Span) : Range :=
  let lines := Text.linesWithEnds source
  ⟨s.startIn 0 0 (lines.take (s.reach 0 lines)), s.stopIn 0 0 lines⟩

end Span

/-! ## Tokens -/

/-- What a token is.  The kinds that end in `Word` are the reserved words. -/
inductive TokenKind where
  | colon | comma | dollar | exclamationMark | hash | semicolon
  | equals | equalsEquals | exclamationMarkEquals
  | lessThan | lessThanEquals | greaterThan | greaterThanEquals
  | dotDotEquals | dotDotLessThan
  | plus | minus | asterisk | percent | questionMark | slash
  | leftParenthesis | rightParenthesis | leftSquareBracket | rightSquareBracket
  | storeWord | paramsWord | printWord | letWord
  | identifier | stringLiteral | numberLiteral | boolLiteral
  | stringWord | numberWord | boolWord | listWord
  | andWord | orWord | notWord
  | forWord | asWord | ifWord | yeetWord | foldWord | withWord
  | splitWord | joinWord | sortWord
  | endOfInput
  deriving Repr, DecidableEq, Inhabited

namespace TokenKind

def label : TokenKind → String
  | colon => "COLON"
  | comma => "COMMA"
  | dollar => "DOLLAR"
  | exclamationMark => "EXCLAMATION_MARK"
  | hash => "HASH"
  | semicolon => "SEMICOLON"
  | equals => "EQUALS"
  | equalsEquals => "EQUALS_EQUALS"
  | exclamationMarkEquals => "EXCLAMATION_MARK_EQUALS"
  | lessThan => "LESS_THAN"
  | lessThanEquals => "LESS_THAN_EQUALS"
  | greaterThan => "GREATER_THAN"
  | greaterThanEquals => "GREATER_THAN_EQUALS"
  | dotDotEquals => "DOT_DOT_EQUALS"
  | dotDotLessThan => "DOT_DOT_LESS_THAN"
  | plus => "PLUS"
  | minus => "MINUS"
  | asterisk => "ASTERISK"
  | percent => "PERCENT"
  | questionMark => "QUESTION_MARK"
  | slash => "SLASH"
  | leftParenthesis => "LEFT_PARENTHESIS"
  | rightParenthesis => "RIGHT_PARENTHESIS"
  | leftSquareBracket => "LEFT_SQUARE_BRACKET"
  | rightSquareBracket => "RIGHT_SQUARE_BRACKET"
  | storeWord => "STORE"
  | paramsWord => "PARAMS"
  | printWord => "PRINT"
  | letWord => "LET"
  | identifier => "IDENTIFIER"
  | stringLiteral => "STRING_LITERAL"
  | numberLiteral => "NUMBER_LITERAL"
  | boolLiteral => "BOOL_LITERAL"
  | stringWord => "STRING"
  | numberWord => "NUMBER"
  | boolWord => "BOOL"
  | listWord => "LIST"
  | andWord => "AND"
  | orWord => "OR"
  | notWord => "NOT"
  | forWord => "FOR"
  | asWord => "AS"
  | ifWord => "IF"
  | yeetWord => "YEET"
  | foldWord => "FOLD"
  | withWord => "WITH"
  | splitWord => "SPLIT"
  | joinWord => "JOIN"
  | sortWord => "SORT"
  | endOfInput => "END_OF_INPUT"

def ofWord? : String → Option TokenKind
  | "STORE" => some storeWord
  | "PARAMS" => some paramsWord
  | "PRINT" => some printWord
  | "LET" => some letWord
  | "true" => some boolLiteral
  | "false" => some boolLiteral
  | "and" => some andWord
  | "or" => some orWord
  | "not" => some notWord
  | "string" => some stringWord
  | "number" => some numberWord
  | "bool" => some boolWord
  | "list" => some listWord
  | "for" => some forWord
  | "as" => some asWord
  | "if" => some ifWord
  | "yeet" => some yeetWord
  | "fold" => some foldWord
  | "with" => some withWord
  | "split" => some splitWord
  | "join" => some joinWord
  | "sort" => some sortWord
  | _ => none

def ofChar? : Char → Option TokenKind
  | ':' => some colon
  | ',' => some comma
  | '$' => some dollar
  | '?' => some questionMark
  | ';' => some semicolon
  | '+' => some plus
  | '-' => some minus
  | '*' => some asterisk
  | '%' => some percent
  | '/' => some slash
  | '(' => some leftParenthesis
  | ')' => some rightParenthesis
  | '[' => some leftSquareBracket
  | ']' => some rightSquareBracket
  | '#' => some hash
  | _ => none

end TokenKind

structure Token where
  kind : TokenKind
  lexeme : String
  span : Span
  range : Range
  deriving Repr, DecidableEq, Inhabited

end StreamBot.Script

/-! ## Escape sequences of string literals

Between its quotes, a string literal writes a line feed, a quote and a backslash as a backslash and a
letter; every other character stands for itself.
-/

namespace StreamBot.Script.Escape

def quote : Char := '\x27'

def backslash : Char := '\x5c'

/-- The character that an escape sequence stands for, by the character behind the backslash. -/
def decodeChar? (c : Char) : Option Char :=
  if c = 'n' then some '\n'
  else if c = quote then some quote
  else if c = backslash then some backslash
  else none

def encodeChar (c : Char) : List Char :=
  if c = '\n' then [backslash, 'n']
  else if c = quote ∨ c = backslash then [backslash, c]
  else [c]

def encode (cs : List Char) : List Char := cs.flatMap encodeChar

/-- The text that is written between quotes, if its escape sequences are complete and known. -/
def decode : List Char → Option (List Char)
  | [] => some []
  | c :: rest =>
    if c = backslash then
      match rest with
      | [] => none
      | e :: rest => do return (← decodeChar? e) :: (← decode rest)
    else do return c :: (← decode rest)

end StreamBot.Script.Escape
