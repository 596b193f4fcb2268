import StreamBot.DataDirectory
import StreamBot.Script.Source

/-! # Names of built-in functions -/

namespace StreamBot.Script

inductive Builtin where
  | type | length | upper | lower | trim | replace | contains | startsWith | endsWith
  | abs | min | max | round | floor | ceil | sqrt | pow | random
  | timestamp | date | readFile
  deriving Repr, DecidableEq, Inhabited

inductive Arity where
  | exactly (count : Nat)
  | atLeast (count : Nat)
  deriving Repr, DecidableEq

namespace Builtin

def all : List Builtin := [
  type, length, upper, lower, trim, replace, contains, startsWith, endsWith, abs, min, max, round, floor,
  ceil, sqrt, pow, random, timestamp, date, readFile]

def name : Builtin → String
  | type => "type"
  | length => "length"
  | upper => "upper"
  | lower => "lower"
  | trim => "trim"
  | replace => "replace"
  | contains => "contains"
  | startsWith => "starts_with"
  | endsWith => "ends_with"
  | abs => "abs"
  | min => "min"
  | max => "max"
  | round => "round"
  | floor => "floor"
  | ceil => "ceil"
  | sqrt => "sqrt"
  | pow => "pow"
  | random => "random"
  | timestamp => "timestamp"
  | date => "date"
  | readFile => "read_file"

def arity : Builtin → Arity
  | timestamp => .exactly 0
  | contains | startsWith | endsWith | pow | random => .exactly 2
  | replace => .exactly 3
  | min | max => .atLeast 1
  | _ => .exactly 1

def ofName? (s : String) : Option Builtin := all.find? (·.name == s)

end Builtin

/-! ## Why an execution fails -/

/-- The three kinds of names that can be assigned to. -/
inductive NameKind where
  | store | parameter | var
  deriving Repr, DecidableEq

def NameKind.text : NameKind → String
  | store => "store"
  | parameter => "parameter"
  | var => "variable"

inductive BuiltinFault where
  | argumentCount (function : Builtin) (actual : Nat)
  | stringNeeded (function : Builtin) (actual : DataType)
  | lengthNeeds (actual : DataType)
  | replaceIn (actual : DataType)
  | replaceOld (actual : DataType)
  | replaceNew (actual : DataType)
  | containsElement (needle list : DataType)
  | containsArguments
  | stringsNeeded (function : Builtin) (first second : DataType)
  | numberNeeded (function : Builtin) (actual : DataType)
  | numberNeededAt (function : Builtin) (actual : DataType) (position : Nat)
  | numberListNeeded (function : Builtin) (element : DataType)
  | emptyList (function : Builtin)
  | textInNumbers
  | notComparable (function : Builtin) (first second : String)
  | listHasNoValue
  | infiniteToInteger
  | undefinedToInteger
  | negativeRoot (x : Float)
  | power (fault : Decimal.PowerFault)
  | dateFormat (actual : DataType)
  | filePath (actual : DataType)
  | file (path : String) (fault : FileFault)
  | unlikeElements
  deriving Repr

inductive Fault where
  | typing (fault : TypeFault)
  | argumentCount (script : String) (expected actual : Nat)
  | storeMissing (name : String)
  | parameterMissing (name : String)
  | variableMissing (name : String)
  | readType (kind : NameKind) (name : String) (expected actual : DataType)
  | assignStoreMissing (name script : String)
  | assignParameterMissing (name : String)
  | assignVariableMissing (name : String)
  | assignType (kind : NameKind) (name : String) (expected actual : DataType)
  | alreadyDefined (name : String)
  | definitionType (name : String) (expected actual : DataType)
  | unaryOperand (op : UnaryOp) (operand : DataType)
  | notLexable (text : String) (error : LexError)
  | notNumber (text : String)
  /-- A number that was lexed has a digit that is not decimal. -/
  | numberText (lexeme : String)
  | notBool (text : String)
  | codeNotParsed (fault : SourceFault)
  | codeHasStores
  | codeHasParameters
  | codeWithoutOutput
  | boolNeeded (op : BinaryOp) (actual : DataType)
  | divisionByZero
  | moduloByZero
  | rangeStart (op : BinaryOp) (x : Float)
  | rangeEnd (op : BinaryOp) (x : Float)
  | listConcatenation (left right : DataType)
  | binaryOperands (left : DataType) (op : BinaryOp) (right : DataType)
  | ternaryCondition (actual : DataType)
  | callee (actual : DataType)
  | scriptMissing (name : String)
  | scriptWithoutOutput (name : String)
  | untypedEmptyLists
  | stringIndex (x : Float)
  | stringIndexRange (index : Int) (length : Nat)
  | listIndex (x : Float)
  | listIndexRange (index : Int) (length : Nat)
  | subscript (operand index : DataType)
  | comprehensionIterable (actual : DataType)
  | foldIterable (actual : DataType)
  | foldStart (start body : DataType)
  | foldAccumulator (accumulator body : DataType)
  | splitText (actual : DataType)
  | splitDelimiter (actual : DataType)
  | splitAtNothing
  | joinList (actual : DataType)
  | joinElement (actual : DataType)
  | joinDelimiter (actual : DataType)
  | sortList (actual : DataType)
  | sortNumbers
  | sortNames
  | sortComparison (actual : DataType)
  | builtin (fault : BuiltinFault)
  | tooDeep
  /-- The execution was stopped because it took too long. -/
  | stopped
  | host (message : String)
  deriving Repr

private def call (function : Builtin) : String := "'" ++ function.name ++ "'"

def BuiltinFault.message : BuiltinFault → String
  | argumentCount function actual =>
    match function.arity with
    | .exactly count =>
      s!"Expected {count} argument(s), got {actual} argument(s) for built-in function {function.name}."
    | .atLeast count =>
      s!"Expected at least {count} argument(s), got {actual} for built-in function {function.name}."
  | stringNeeded function actual => s!"{call function} requires a string argument, got '{actual}'"
  | lengthNeeds actual => s!"'length' requires a string or list argument, got '{actual}'"
  | replaceIn actual =>
    s!"'replace' can only replace substrings in string arguments, got '{actual}' instead"
  | replaceOld actual =>
    "'replace' requires a string as the second argument for the substring to be replaced, " ++
      s!"got '{actual}' instead"
  | replaceNew actual =>
    "'replace' requires a string as the third argument for the replacement substring, " ++
      s!"got '{actual}' instead"
  | containsElement needle list =>
    "'contains' requires the needle to be of the same type as the elements of the haystack list, " ++
      s!"got '{needle}' and '{list}'"
  | containsArguments =>
    "'contains' requires either both arguments to be strings, " ++
      "or the first argument to be a value and the second argument to be a list"
  | stringsNeeded function first second =>
    s!"{call function} requires string arguments, got '{first}' and '{second}'"
  | numberNeeded function actual => s!"{call function} requires a number argument, got {actual}"
  | numberNeededAt function actual position =>
    s!"{call function} requires number arguments, got {actual} at position {position}"
  | numberListNeeded function element =>
    s!"{call function} requires number arguments, got list of {element}"
  | emptyList function => s!"{function.name}() iterable argument is empty"
  | textInNumbers => "'str' object has no attribute 'is_integer'"
  | notComparable function first second =>
    let sign := if function = .max then ">" else "<"
    s!"'{sign}' not supported between instances of '{first}' and '{second}'"
  | listHasNoValue => "'ListValue' object has no attribute 'value'"
  | infiniteToInteger => "cannot convert float infinity to integer"
  | undefinedToInteger => "cannot convert float NaN to integer"
  | negativeRoot x => s!"'sqrt' requires a non-negative argument, got {Decimal.text x}"
  | power .notReal => "'complex' object has no attribute 'is_integer'"
  | power .ofZero => "0.0 cannot be raised to a negative power"
  | power .overflow => "(34, 'Numerical result out of range')"
  | power .overflowNotReal => "complex exponentiation"
  | dateFormat actual => s!"'date' requires a string argument, got {actual}"
  | filePath actual =>
    s!"'read_file' requires a string argument for the file path, got {actual}"
  | file path .outside => s!"Access to file '{path}' is outside of the data root path"
  | file path .missing => s!"File not found: '{path}'"
  | file path (.unreadable reason) => s!"Error reading file '{path}': {reason}"
  | file _ .nullByte => "embedded null byte"
  | unlikeElements => "Unreachable"

def Fault.message : Fault → String
  | typing fault => fault.message
  | argumentCount script expected actual =>
    s!"Script '{script}' expects {expected} arguments, but got {actual}."
  | storeMissing name => s!"Store '{name}' not found."
  | parameterMissing name => s!"Parameter '{name}' not defined."
  | variableMissing name => s!"Variable '{name}' not defined."
  | readType kind name expected actual =>
    s!"Type mismatch when accessing {kind.text} '{name}': expected {expected}, got {actual}"
  | assignStoreMissing name script => s!"Store '{name}' not found in script '{script}'"
  | assignParameterMissing name => s!"Parameter '{name}' not defined"
  | assignVariableMissing name => s!"Variable '{name}' not defined"
  | assignType kind name expected actual =>
    s!"Type mismatch when assigning to {kind.text} '{name}': expected {expected}, got {actual}"
  | alreadyDefined name => s!"Variable '{name}' already defined"
  | definitionType name expected actual =>
    s!"Type mismatch when defining variable '{name}': expected {expected}, got {actual}"
  | unaryOperand op operand => s!"Unary operator {op} is not supported for {operand} operands"
  | notLexable text error =>
    s!"Failed to lex string '{text}' for number conversion: {error.fault.message}"
  | notNumber text => s!"String '{text}' does not represent a valid number"
  | numberText lexeme => s!"could not convert string to float: '{lexeme}'"
  | notBool text => s!"String '{text}' cannot be converted to boolean"
  | codeNotParsed fault => s!"Failed to parse code for evaluation: {fault.message}"
  | codeHasStores => "Stores inside evaluated code are not supported"
  | codeHasParameters => "Parameters inside evaluated code are not supported"
  | codeWithoutOutput => "Evaluated script did not produce any output"
  | boolNeeded op actual => s!"Operator {op} requires boolean operands, got '{actual}'"
  | divisionByZero => "Division by zero"
  | moduloByZero => "Modulo by zero"
  | rangeStart op x =>
    s!"Range operator {op} requires integer operands, got non-integer start value {Decimal.text x}"
  | rangeEnd op x =>
    s!"Range operator {op} requires integer operands, got non-integer end value {Decimal.text x}"
  | listConcatenation left right =>
    s!"Cannot concatenate lists of different element types: '{left}' and '{right}'"
  | binaryOperands left op right =>
    s!"Operator {op} is not supported for the given operand types '{left}' and '{right}'"
  | ternaryCondition actual => s!"Ternary condition must be a boolean, got {actual}"
  | callee actual => s!"Callee must be a string, got {actual}."
  | scriptMissing name => s!"Called script '{name}' not found"
  | scriptWithoutOutput name => s!"Called script '{name}' did not return a value"
  | untypedEmptyLists =>
    "List of empty lists literal must not be used directly without specifying element type."
  | stringIndex x => s!"String index must be an integer, got non-integer {Decimal.text x}"
  | stringIndexRange index length =>
    s!"String index {index} out of range for string of length {length}"
  | listIndex x => s!"List index must be an integer, got non-integer {Decimal.text x}"
  | listIndexRange index length => s!"List index {index} out of range for list of length {length}"
  | subscript operand index =>
    s!"Subscript operation not supported for operand type '{operand}' and index type '{index}'"
  | comprehensionIterable actual =>
    s!"List comprehension iterable must be a string or a list, got {actual}"
  | foldIterable actual => s!"Fold expression iterable must be a string or a list, got {actual}"
  | foldStart start body =>
    "Fold expression start value type must match expression type: " ++
      s!"got start type '{start}' and expression type '{body}'"
  | foldAccumulator accumulator body =>
    "Fold expression accumulator type must match expression type: " ++
      s!"got accumulator type '{accumulator}' and expression type '{body}'"
  | splitText actual => s!"split() requires a string as first argument, got '{actual}'"
  | splitDelimiter actual => s!"split() requires a string as delimiter argument, got '{actual}'"
  | splitAtNothing => "empty separator"
  | joinList actual => s!"join() requires a list as first argument, got '{actual}'"
  | joinElement actual => s!"join() requires a list of strings, got list containing '{actual}'"
  | joinDelimiter actual => s!"join() requires a string as delimiter argument, got '{actual}'"
  | sortList actual => s!"sort() requires a list, got '{actual}'"
  | sortNumbers => "Default sort requires numeric values"
  | sortNames => "Variable names and comparison expression required for custom comparison"
  | sortComparison actual =>
    s!"sort() comparison expression must return a bool, got '{actual}'"
  | builtin fault => fault.message
  | tooDeep => "maximum recursion depth exceeded"
  | stopped => ""
  | host message => message

end StreamBot.Script
