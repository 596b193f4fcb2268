import StreamBot.Decimal.Numeral

/-! # Syntax trees and values -/

namespace StreamBot.Script

/-! ## Types -/

inductive DataType where
  | number
  | string
  | bool
  | list (element : DataType)
  deriving Repr, DecidableEq, Inhabited

def DataType.text : DataType → String
  | number => "number"
  | string => "string"
  | bool => "bool"
  | list element => "list<" ++ element.text ++ ">"

instance : ToString DataType := ⟨DataType.text⟩

/-- The type of what a loop takes from a value of this type: characters of a string and elements of a
list. -/
def DataType.element? : DataType → Option DataType
  | string => some string
  | list element => some element
  | _ => none

/-! ## Trees -/

inductive UnaryOp where
  | plus | negate | toNumber | toText | toBool | evaluate | not
  deriving Repr, DecidableEq, Inhabited

def UnaryOp.text : UnaryOp → String
  | plus => "+"
  | negate => "-"
  | toNumber => "$"
  | toText => "#"
  | toBool => "?"
  | evaluate => "!"
  | not => "not"

instance : ToString UnaryOp := ⟨UnaryOp.text⟩

inductive BinaryOp where
  | add | subtract | multiply | divide | modulo
  | equal | notEqual | less | lessEqual | greater | greaterEqual
  | and | or
  | rangeInclusive | rangeExclusive
  deriving Repr, DecidableEq, Inhabited

def BinaryOp.text : BinaryOp → String
  | add => "+"
  | subtract => "-"
  | multiply => "*"
  | divide => "/"
  | modulo => "%"
  | equal => "=="
  | notEqual => "!="
  | less => "<"
  | lessEqual => "<="
  | greater => ">"
  | greaterEqual => ">="
  | and => "and"
  | or => "or"
  | rangeInclusive => "..="
  | rangeExclusive => "..<"

instance : ToString BinaryOp := ⟨BinaryOp.text⟩

/-- A list literal that holds nothing but such literals, of which the innermost are empty.  Its type is
not known from itself. -/
inductive EmptyLists where
  | nest (members : List EmptyLists)
  deriving Repr, Inhabited

def EmptyLists.members : EmptyLists → List EmptyLists
  | nest members => members

/-- An expression.  Names carry the type they had when they were resolved; the same holds for the results
of `ternary` and `subscript` and the elements of a list literal. -/
inductive Expr where
  | numberLiteral (value : Float)
  | stringLiteral (value : String)
  | boolLiteral (value : Bool)
  | listLiteral (element : DataType) (elements : List Expr)
  | emptyLists (literal : EmptyLists)
  | store (name : String) (type : DataType)
  | parameter (name : String)
  | var (name : String) (type : DataType)
  | unary (op : UnaryOp) (operand : Expr)
  | binary (left : Expr) (op : BinaryOp) (right : Expr)
  | ternary (condition onTrue onFalse : Expr) (type : DataType)
  | call (callee : Expr) (arguments : List Expr)
  | subscript (operand index : Expr) (type : DataType)
  | comprehension (iterable : Expr) (element : String) (condition : Option Expr) (body : Expr)
  | fold (iterable start : Expr) (accumulator element : String) (body : Expr)
  | split (text : Expr) (delimiter : Option Expr)
  | join (list : Expr) (delimiter : Option Expr)
  | sort (list : Expr) (left right : Option String) (comparison : Option Expr)
  deriving Repr, Inhabited

inductive Target where
  | store (name : String) (type : DataType)
  | parameter (name : String)
  | var (name : String) (type : DataType)
  deriving Repr, DecidableEq, Inhabited

def Target.read : Target → Expr
  | store name type => .store name type
  | parameter name => .parameter name
  | var name type => .var name type

def Target.dataType : Target → DataType
  | store _ type => type
  | parameter _ => .string
  | var _ type => type

inductive Statement where
  | print (argument : Expr)
  | assign (target : Target) (value : Expr)
  | define (name : String) (type : DataType) (value : Expr)
  deriving Repr, Inhabited

/-- A value that a script keeps from one execution to the next, with its first value. -/
structure Store where
  name : String
  value : Expr
  deriving Repr, Inhabited

/-! ## Values -/

/-- A value.  A list knows the type of its elements, also when it has none. -/
inductive Value where
  | number (x : Float)
  | string (s : String)
  | bool (b : Bool)
  | list (element : DataType) (elements : List Value)
  deriving Repr, Inhabited

namespace Value

def dataType : Value → DataType
  | number _ => .number
  | string _ => .string
  | bool _ => .bool
  | list element _ => .list element

def boolText (b : Bool) : String := if b then "true" else "false"

mutual

def text : Value → String
  | number x => Decimal.plainText x
  | string s => s
  | bool b => boolText b
  | list _ elements => "[" ++ textOfAll elements ++ "]"

def textOfAll : List Value → String
  | [] => ""
  | [v] => v.text
  | v :: rest => v.text ++ ", " ++ textOfAll rest

end

mutual

def WellFormed : Value → Prop
  | list element elements => AllWellFormed element elements
  | _ => True

def AllWellFormed (element : DataType) : List Value → Prop
  | [] => True
  | v :: rest => v.dataType = element ∧ v.WellFormed ∧ AllWellFormed element rest

end

end Value

end StreamBot.Script

namespace StreamBot

structure Script where
  name : String
  stores : List Script.Store
  parameters : List String
  statements : List Script.Statement
  deriving Repr, Inhabited

end StreamBot
