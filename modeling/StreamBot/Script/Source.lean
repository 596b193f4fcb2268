import StreamBot.Script.Lexer
import StreamBot.Script.Parser

/-! # Source texts of scripts -/

namespace StreamBot.Script

inductive SourceFault where
  | lex (error : LexError)
  | parse (fault : ParseFault)
  deriving Repr, DecidableEq

def SourceFault.message : SourceFault → String
  | lex error => error.fault.message
  | parse fault => fault.message

def ofSource (name source : String) : Except SourceFault Script :=
  match tokenize source with
  | .error error => .error (.lex error)
  | .ok tokens => (parse name tokens).mapError .parse

end StreamBot.Script
