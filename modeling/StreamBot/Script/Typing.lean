import StreamBot.Script.Tree

/-! # Static types of expressions

`Expr.dataType` computes the type of an expression from its parts and from the types that are written
into the tree.  It fails if an operator does not fit its operands, or if the type hangs on an empty list.
-/

namespace StreamBot.Script

inductive TypeFault where
  | unaryOperand (op : UnaryOp) (operand : DataType)
  | rangeStart (op : BinaryOp) (operand : DataType)
  | rangeEnd (op : BinaryOp) (operand : DataType)
  | listElements (op : BinaryOp)
  | numberOperand (op : BinaryOp) (left right : DataType)
  | stringOperand (op : BinaryOp)
  | boolOperand (op : BinaryOp)
  | listOperand (op : BinaryOp)
  | untypedEmptyList
  deriving Repr, DecidableEq

def TypeFault.message : TypeFault → String
  | unaryOperand op operand => s!"Unary operator {op} is not supported for {operand} operands"
  | rangeStart op operand =>
    s!"Range operator {op} requires number operands, got '{operand}' for start"
  | rangeEnd op operand => s!"Range operator {op} requires number operands, got '{operand}' for end"
  | listElements op =>
    s!"Operator {op} is not supported for list operands of different element types"
  | numberOperand op left right =>
    s!"Operator {op} is not supported for number operands (got '{left}' and '{right}')"
  | stringOperand op => s!"Operator {op} is not supported for string operands"
  | boolOperand op => s!"Operator {op} is not supported for boolean operands"
  | listOperand op => s!"Operator {op} is not supported for list operands"
  | untypedEmptyList => "Unable to deduce type of empty list literal."

def UnaryOp.resultType (op : UnaryOp) (operand : DataType) : Except TypeFault DataType :=
  match op, operand with
  | .plus, .number => .ok .number
  | .negate, .number => .ok .number
  | .not, .bool => .ok .bool
  | .evaluate, .string => .ok .string
  | op, operand =>
    match op, operand with
    | .toNumber, .list _ => .error (.unaryOperand op operand)
    | .toText, .list _ => .error (.unaryOperand op operand)
    | .toBool, .list _ => .error (.unaryOperand op operand)
    | .toNumber, _ => .ok .number
    | .toText, _ => .ok .string
    | .toBool, _ => .ok .bool
    | _, _ => .error (.unaryOperand op operand)

namespace BinaryOp

def isArithmetic : BinaryOp → Bool
  | add | subtract | multiply | divide | modulo => true
  | _ => false

def isEquality : BinaryOp → Bool
  | equal | notEqual => true
  | _ => false

def isOrder : BinaryOp → Bool
  | less | lessEqual | greater | greaterEqual => true
  | _ => false

def isLogical : BinaryOp → Bool
  | and | or => true
  | _ => false

def isRange : BinaryOp → Bool
  | rangeInclusive | rangeExclusive => true
  | _ => false

/-- The fault for operands that do not fit, where both operands of a range are no numbers its start is
named. -/
def mismatch (left : DataType) (op : BinaryOp) (right : DataType) : TypeFault :=
  if op.isRange then
    if left ≠ .number then .rangeStart op left else .rangeEnd op right
  else match left, right with
    | .number, _ | _, .number => .numberOperand op left right
    | .string, _ | _, .string => .stringOperand op
    | .bool, _ | _, .bool => .boolOperand op
    | .list a, .list b => if op = .add ∧ a ≠ b then .listElements op else .listOperand op

def resultType (left : DataType) (op : BinaryOp) (right : DataType) : Except TypeFault DataType :=
  match left, right with
  | .number, .number =>
    if op.isArithmetic then .ok .number
    else if op.isEquality || op.isOrder then .ok .bool
    else if op.isRange then .ok (.list .number)
    else .error (mismatch left op right)
  | .string, .string =>
    if op.isEquality || op.isOrder then .ok .bool
    else if op = .add then .ok .string
    else .error (mismatch left op right)
  | .bool, .bool =>
    if op.isEquality || op.isLogical then .ok .bool else .error (mismatch left op right)
  | .list a, .list b =>
    if op = .add ∧ a = b then .ok (.list a) else .error (mismatch left op right)
  | _, _ => .error (mismatch left op right)

end BinaryOp

def Expr.dataType : Expr → Except TypeFault DataType
  | numberLiteral _ => .ok .number
  | stringLiteral _ => .ok .string
  | boolLiteral _ => .ok .bool
  | listLiteral element _ => .ok (.list element)
  | emptyLists _ => .error .untypedEmptyList
  | store _ type => .ok type
  | parameter _ => .ok .string
  | var _ type => .ok type
  | unary op operand => do op.resultType (← operand.dataType)
  | binary left op right => do
    let l ← left.dataType
    let r ← right.dataType
    BinaryOp.resultType l op r
  | ternary _ _ _ type => .ok type
  | call _ _ => .ok .string
  | subscript _ _ type => .ok type
  | comprehension _ _ _ body => do return .list (← body.dataType)
  | fold _ _ _ _ body => body.dataType
  | split _ _ => .ok (.list .string)
  | join _ _ => .ok .string
  | sort list _ _ _ => list.dataType

end StreamBot.Script
