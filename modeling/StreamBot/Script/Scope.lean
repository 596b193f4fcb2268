import StreamBot.Script.Token
import StreamBot.Script.Typing

/-! # Names in scope

The names that an expression may use: the stores declared so far, the parameters, and the variables in the
order in which they were introduced.  A name means a store before a parameter before a variable, and the
first of several variables.
-/

namespace StreamBot.Script

/-! ## Why tokens are not a script -/

inductive ParseFault where
  | expectedToken (what : String) (found : TokenKind) (position : Position)
  | storeRedefinition (name : String)
  | variableRedefinition (name : String)
  | initializationType (name : String) (expected : DataType) (actual : Option DataType)
  | unknownVariable (name : String)
  | parameterShadowsStore (name : String)
  | variableShadowsParameter (name : String)
  | variableShadowsStore (name : String)
  | duplicateParameter (name : String)
  | ternaryCondition (condition : DataType)
  | ternaryBranches (onTrue onFalse : DataType)
  | subscript (operand index : DataType)
  | assignmentType (target value : DataType)
  | notCallable (callee : DataType)
  | emptyListWithoutType
  | emptyListToOther (target : DataType)
  | listElement (expected actual : DataType)
  | notEmptyList (count : Nat)
  | notIterable (type : DataType)
  | nestedComprehension
  | comprehensionCondition (condition : DataType)
  | foldType (expected actual : DataType)
  | printType (fault : TypeFault)
  | splitText (actual : DataType)
  | splitDelimiter (actual : DataType)
  | joinList (actual : DataType)
  | joinElements (actual : DataType)
  | joinDelimiter (actual : DataType)
  | sortList (actual : DataType)
  | sortNeedsComparison (actual : DataType)
  | sortComparison (actual : DataType)
  | typing (fault : TypeFault)
  | numberText (lexeme : String)
  /-- A literal is not of the form that its token promises. -/
  | boolText (lexeme : String)
  | stringText (lexeme : String)
  /-- The expression is nested more deeply than it has tokens. -/
  | nesting
  deriving Repr, DecidableEq

def ParseFault.message : ParseFault → String
  | expectedToken what found position =>
    s!"Expected {what} at line {position.line}, column {position.column}, " ++
      s!"got 'TokenType.{found.label}'."
  | storeRedefinition name => s!"Store '{name}' is already defined."
  | variableRedefinition name => s!"Variable '{name}' is already defined."
  | initializationType name expected none =>
    s!"Variable '{name}' expected to be initialized with value of type '{expected}'."
  | initializationType name expected (some actual) =>
    s!"Cannot initialize variable '{name}' of type '{expected}' with value of type '{actual}'."
  | unknownVariable name => s!"Variable '{name}' is not defined."
  | parameterShadowsStore name => s!"Parameter '{name}' shadows store with the same name."
  | variableShadowsParameter name => s!"Variable '{name}' shadows parameter with the same name."
  | variableShadowsStore name => s!"Variable '{name}' shadows store with the same name."
  | duplicateParameter name => s!"Parameter '{name}' is already defined."
  | ternaryCondition condition =>
    s!"Ternary operator condition must be of type 'bool', got '{condition}'."
  | ternaryBranches onTrue onFalse =>
    s!"Ternary operator branches must have the same type, got '{onTrue}' and '{onFalse}'."
  | subscript operand index =>
    s!"Cannot subscript value of type '{operand}' with index of type '{index}'."
  | assignmentType target value =>
    s!"Cannot assign value of type '{value}' to target of type '{target}'."
  | notCallable callee => s!"Value of type '{callee}' is not callable."
  | emptyListWithoutType => "Empty list literal requires an explicit type annotation."
  | emptyListToOther target => s!"Cannot assign empty list literal to target of type '{target}'."
  | listElement expected actual =>
    s!"List element type mismatch: expected '{expected}', got '{actual}'."
  | notEmptyList count =>
    s!"Expected an empty list literal, got a list literal with {count} element(s)."
  | notIterable type => s!"Value of type '{type}' is not iterable."
  | nestedComprehension => "Nested list comprehensions must be enclosed in parentheses."
  | comprehensionCondition condition =>
    s!"List comprehension condition must be of type 'bool', got '{condition}'."
  | foldType expected actual =>
    s!"Fold expression type error: expected '{expected}', got '{actual}'."
  | printType fault => fault.message
  | splitText actual => s!"split expects a string as the first argument, got '{actual}'"
  | splitDelimiter actual => s!"split expects a string as the second argument, got '{actual}'"
  | joinList actual => s!"join expects a list as the first argument, got '{actual}'"
  | joinElements actual => s!"join expects a list of strings, got '{actual}'"
  | joinDelimiter actual => s!"join expects a string as the second argument, got '{actual}'"
  | sortList actual => s!"sort expects a list as the first argument, got '{actual}'"
  | sortNeedsComparison actual =>
    s!"sort without comparison expression is only allowed for list<number>, got '{actual}'"
  | sortComparison actual => s!"sort comparison expression must return bool, got '{actual}'"
  | typing fault => fault.message
  | numberText lexeme => s!"could not convert string to float: '{lexeme}'"
  | boolText lexeme => s!"unexpected boolean literal: {lexeme}"
  | stringText lexeme => s!"Invalid string lexeme: {lexeme}"
  | nesting => "maximum recursion depth exceeded"

/-! ## Scopes -/

structure Scope where
  stores : List Store := []
  parameters : List String := []
  /-- The variables in the order of their definitions, with their types. -/
  bindings : List (String × DataType) := []

namespace Scope

def bind (scope : Scope) (name : String) (type : DataType) : Scope :=
  { scope with bindings := scope.bindings ++ [(name, type)] }

def resolve (scope : Scope) (name : String) : Except ParseFault Target :=
  match scope.stores.find? (·.name == name) with
  | some store =>
    match store.value.dataType with
    | .ok type => .ok (.store name type)
    | .error fault => .error (.typing fault)
  | none =>
    if scope.parameters.contains name then .ok (.parameter name)
    else match scope.bindings.lookup name with
      | some type => .ok (.var name type)
      | none => .error (.unknownVariable name)

def checkFresh (scope : Scope) (name : String) : Except ParseFault Unit :=
  if scope.stores.any (·.name == name) then .error (.variableShadowsStore name)
  else if scope.parameters.contains name then .error (.variableShadowsParameter name)
  else if scope.bindings.any (·.1 == name) then .error (.variableRedefinition name)
  else .ok ()

end Scope

/-! ## Types for empty list literals

An empty list literal takes its type from where it stands: from a neighbour in a list, from the target of
an assignment or from an annotation.  `reify` writes a list type into such a literal.
-/

namespace EmptyLists

mutual

def reify (element : DataType) : EmptyLists → Except ParseFault Expr
  | nest members =>
    match element with
    | .list inner => do return .listLiteral (.list inner) (← reifyAll inner members)
    | _ =>
      if members.isEmpty then .ok (.listLiteral element [])
      else .error (.notEmptyList members.length)

def reifyAll (element : DataType) : List EmptyLists → Except ParseFault (List Expr)
  | [] => .ok []
  | literal :: rest => do
    let first ← reify element literal
    return first :: (← reifyAll element rest)

end

end EmptyLists

end StreamBot.Script
