import StreamBot.Script.Scope

/-! # From tokens to scripts

Expressions are read by precedence climbing: an operand, then operators as long as they bind more tightly
than the one before the operand.  The parts of the grammar that contain expressions take the reader of
expressions as an argument; `expression` ties the knot.  Each of them consumes a token before it reads a
nested expression, so the number of tokens bounds the depth.

The tokens end with the end of the input, which is never consumed.
-/

namespace StreamBot.Script

/-! ## Operators and how tightly they bind -/

inductive Precedence where
  | unknown | ternary | or | and | range | equality | comparison | sum | product | unary | call
  deriving Repr, DecidableEq, Inhabited

namespace Precedence

def rank : Precedence → Nat
  | unknown => 0
  | ternary => 1
  | or => 2
  | and => 3
  | range => 4
  | equality => 5
  | comparison => 6
  | sum => 7
  | product => 8
  | unary => 9
  | call => 10

def isAbove (p q : Precedence) : Bool := decide (q.rank < p.rank)

end Precedence

inductive Infix where
  | binary (op : BinaryOp)
  | ternary
  | call
  | subscript
  deriving Repr, DecidableEq

namespace TokenKind

def unaryOp? : TokenKind → Option UnaryOp
  | plus => some .plus
  | minus => some .negate
  | notWord => some .not
  | dollar => some .toNumber
  | exclamationMark => some .evaluate
  | questionMark => some .toBool
  | hash => some .toText
  | _ => none

def binaryOp? : TokenKind → Option BinaryOp
  | plus => some .add
  | minus => some .subtract
  | asterisk => some .multiply
  | slash => some .divide
  | percent => some .modulo
  | equalsEquals => some .equal
  | exclamationMarkEquals => some .notEqual
  | lessThan => some .less
  | lessThanEquals => some .lessEqual
  | greaterThan => some .greater
  | greaterThanEquals => some .greaterEqual
  | dotDotEquals => some .rangeInclusive
  | dotDotLessThan => some .rangeExclusive
  | andWord => some .and
  | orWord => some .or
  | _ => none

def afterOperand? (kind : TokenKind) : Option Infix :=
  match kind with
  | questionMark => some .ternary
  | leftParenthesis => some .call
  | leftSquareBracket => some .subscript
  | _ => kind.binaryOp?.map .binary

end TokenKind

def BinaryOp.precedence : BinaryOp → Precedence
  | .or => .or
  | .and => .and
  | .rangeInclusive | .rangeExclusive => .range
  | .equal | .notEqual => .equality
  | .less | .lessEqual | .greater | .greaterEqual => .comparison
  | .add | .subtract => .sum
  | .multiply | .divide | .modulo => .product

def Infix.precedence : Infix → Precedence
  | .binary op => op.precedence
  | .ternary => .ternary
  | .call | .subscript => .call

/-! ## Readers -/

namespace Parser

/-- A reader: takes tokens from the front, or fails. -/
abbrev Parse (α : Type) := StateT (List Token) (Except ParseFault) α

/-- Reads an expression in a scope, up to an operator that does not bind more tightly than the given
precedence. -/
abbrev ExprParser := Scope → Precedence → Parse Expr

def noToken : Token := ⟨.endOfInput, "", ⟨0, 1⟩, {}⟩

def current : Parse Token := do return (← get).head?.getD noToken

def currentKind : Parse TokenKind := do return (← current).kind

def advance : Parse Unit :=
  modify fun tokens =>
    match tokens with
    | t :: rest => if t.kind = .endOfInput then tokens else rest
    | [] => []

def accept (kind : TokenKind) : Parse (Option Token) := do
  let t ← current
  if t.kind = kind ∧ kind ≠ .endOfInput then
    advance
    return some t
  else return none

def failExpected {α : Type} (what : String) : Parse α := do
  let t ← current
  throw (.expectedToken what t.kind t.range.start)

def expect (kind : TokenKind) (what : String) : Parse Token := do
  match ← accept kind with
  | some t => return t
  | none => failExpected what

def typeOf (e : Expr) : Parse DataType :=
  match e.dataType with
  | .ok type => return type
  | .error fault => throw (.typing fault)

def freshName (scope : Scope) (what : String) : Parse String := do
  let t ← expect .identifier what
  scope.checkFresh t.lexeme
  return t.lexeme

/-! ### Operands -/

def identifier (scope : Scope) : Parse Expr := do
  let t ← expect .identifier "identifier"
  return (← scope.resolve t.lexeme).read

def numberLiteral : Parse Expr := do
  let t ← expect .numberLiteral "number literal"
  match Decimal.read? t.lexeme.toList with
  | some x => return .numberLiteral x
  | none => throw (.numberText t.lexeme)

def stringOfLexeme? (lexeme : List Char) : Option (List Char) :=
  match lexeme with
  | q :: rest =>
    if q = Escape.quote ∧ rest.getLast? = some Escape.quote then Escape.decode rest.dropLast else none
  | [] => none

def stringLiteral : Parse Expr := do
  let t ← expect .stringLiteral "string literal"
  match stringOfLexeme? t.lexeme.toList with
  | some cs => return .stringLiteral (String.ofList cs)
  | none => throw (.stringText t.lexeme)

def boolLiteral : Parse Expr := do
  let t ← expect .boolLiteral "boolean literal"
  if t.lexeme = "true" then return .boolLiteral true
  else if t.lexeme = "false" then return .boolLiteral false
  else throw (.boolText t.lexeme)

def unaryOperation (expr : ExprParser) (scope : Scope) (op : UnaryOp) : Parse Expr := do
  advance
  return .unary op (← expr scope .unary)

def grouped (expr : ExprParser) (scope : Scope) : Parse Expr := do
  discard <| expect .leftParenthesis "'('"
  let e ← expr scope .unknown
  discard <| expect .rightParenthesis "')' after grouped expression"
  return e

/-- Expressions divided by commas up to a closing token; a comma may stand before it. -/
def sequence (expr : ExprParser) (scope : Scope) (closing : TokenKind) (what : String) :
    Nat → Parse (List Expr)
  | 0 => throw .nesting
  | n + 1 => do
    if (← accept closing).isSome then return []
    let e ← expr scope .unknown
    if (← accept .comma).isSome then
      return e :: (← sequence expr scope closing what n)
    discard <| expect closing what
    return [e]

def expressions (expr : ExprParser) (scope : Scope) (closing : TokenKind) (what : String) :
    Parse (List Expr) := do
  sequence expr scope closing what ((← get).length + 1)

def elementType (known : Option DataType) : List Expr → Parse (Option DataType)
  | [] => return known
  | .emptyLists _ :: rest => elementType known rest
  | e :: rest => do
    let type ← typeOf e
    match known with
    | none => elementType (some type) rest
    | some expected =>
      if expected = type then elementType known rest else throw (.listElement expected type)

/-- Empty lists among the elements get the type of the other ones. -/
def reifyElements (element : DataType) : List Expr → Parse (List Expr)
  | [] => return []
  | .emptyLists literal :: rest => do
    match element with
    | .list inner =>
      let first ← literal.reify inner
      return first :: (← reifyElements element rest)
    | _ => throw (.listElement (.list element) element)
  | e :: rest => do return e :: (← reifyElements element rest)

def emptyLists? : Expr → Option EmptyLists
  | .emptyLists literal => some literal
  | _ => none

/-- A list of the given elements.  If all of them are empty lists, its type is still open. -/
def listOf (elements : List Expr) : Parse Expr := do
  match ← elementType none elements with
  | none => return .emptyLists (.nest (elements.filterMap emptyLists?))
  | some element => return .listLiteral element (← reifyElements element elements)

def listLiteral (expr : ExprParser) (scope : Scope) : Parse Expr := do
  discard <| expect .leftSquareBracket "'[' in list literal"
  listOf (← expressions expr scope .rightSquareBracket "']' after list literal elements")

def iterableType (e : Expr) : Parse DataType := do
  let type ← typeOf e
  match type.element? with
  | some element => return element
  | none => throw (.notIterable type)

def comprehension (expr : ExprParser) (scope : Scope) : Parse Expr := do
  discard <| expect .forWord "'for' in list comprehension"
  let iterable ← expr scope .unknown
  let element ← iterableType iterable
  discard <| expect .asWord "'as' in list comprehension"
  let name ← freshName scope "loop variable name"
  let inner := scope.bind name element
  let condition ← do
    if (← accept .ifWord).isSome then
      let condition ← expr inner .unknown
      let type ← typeOf condition
      if type ≠ .bool then throw (.comprehensionCondition type)
      pure (some condition)
    else pure none
  discard <| expect .yeetWord "'yeet' in list comprehension"
  if (← currentKind) = .forWord then throw .nestedComprehension
  let body ← expr inner .unknown
  return .comprehension iterable name condition body

def fold (expr : ExprParser) (scope : Scope) : Parse Expr := do
  discard <| expect .foldWord "'fold' in fold expression"
  let iterable ← expr scope .unknown
  let element ← iterableType iterable
  discard <| expect .asWord "'as' in fold expression"
  let start ← expr scope .unknown
  let startType ← typeOf start
  discard <| expect .comma "',' after start value in fold expression"
  let accumulatorName ← freshName scope "accumulator identifier"
  discard <| expect .comma "',' in fold expression"
  let elementName ← freshName scope "element identifier"
  discard <| expect .withWord "'with' in fold expression"
  let body ← expr ((scope.bind accumulatorName startType).bind elementName element) .unknown
  let bodyType ← typeOf body
  if bodyType ≠ startType then throw (.foldType element bodyType)
  return .fold iterable start accumulatorName elementName body

/-- The second argument of a function for strings, perhaps with a comma behind it, and the closing
parenthesis. -/
def delimiter (expr : ExprParser) (scope : Scope) (fault : DataType → ParseFault) (closing : String) :
    Parse (Option Expr) := do
  let result ← do
    if (← accept .comma).isSome then
      if (← currentKind) = .rightParenthesis then pure none
      else
        let e ← expr scope .unknown
        let type ← typeOf e
        if type ≠ .string then throw (fault type)
        discard <| accept .comma
        pure (some e)
    else pure none
  discard <| expect .rightParenthesis closing
  return result

def split (expr : ExprParser) (scope : Scope) : Parse Expr := do
  discard <| expect .splitWord "'split' keyword"
  discard <| expect .leftParenthesis "'(' after split"
  let text ← expr scope .unknown
  let type ← typeOf text
  if type ≠ .string then throw (.splitText type)
  return .split text (← delimiter expr scope .splitDelimiter "')' after split arguments")

def join (expr : ExprParser) (scope : Scope) : Parse Expr := do
  discard <| expect .joinWord "'join' keyword"
  discard <| expect .leftParenthesis "'(' after join"
  let list ← expr scope .unknown
  match ← typeOf list with
  | .list .string => pure ()
  | .list element => throw (.joinElements (.list element))
  | type => throw (.joinList type)
  return .join list (← delimiter expr scope .joinDelimiter "')' after join arguments")

/-- A list that is sorted, by a comparison unless it holds numbers. -/
def sort (expr : ExprParser) (scope : Scope) : Parse Expr := do
  discard <| expect .sortWord "'sort' keyword"
  discard <| expect .leftParenthesis "'(' after sort"
  let list ← expr scope .unknown
  let element ← do
    match ← typeOf list with
    | .list element => pure element
    | type => throw (.sortList type)
  if (← accept .semicolon).isNone then
    if element ≠ .number then throw (.sortNeedsComparison (.list element))
    discard <| expect .rightParenthesis "')' after sort expression"
    return .sort list none none none
  let left ← freshName scope "lhs identifier in sort"
  discard <| expect .comma "',' between lhs and rhs identifiers in sort"
  let right ← freshName scope "rhs identifier in sort"
  discard <| expect .yeetWord "'yeet' in sort expression"
  let comparison ← expr ((scope.bind left element).bind right element) .unknown
  let type ← typeOf comparison
  if type ≠ .bool then throw (.sortComparison type)
  discard <| expect .rightParenthesis "')' after sort expression"
  return .sort list (some left) (some right) (some comparison)

def operand (expr : ExprParser) (scope : Scope) : Parse Expr := do
  let kind ← currentKind
  match kind with
  | .identifier => identifier scope
  | .numberLiteral => numberLiteral
  | .stringLiteral => stringLiteral
  | .boolLiteral => boolLiteral
  | .leftParenthesis => grouped expr scope
  | .leftSquareBracket => listLiteral expr scope
  | .forWord => comprehension expr scope
  | .foldWord => fold expr scope
  | .splitWord => split expr scope
  | .joinWord => join expr scope
  | .sortWord => sort expr scope
  | _ =>
    match kind.unaryOp? with
    | some op => unaryOperation expr scope op
    | none => failExpected "expression"

/-! ### Operators -/

def ternary (expr : ExprParser) (scope : Scope) (condition : Expr) : Parse Expr := do
  let type ← typeOf condition
  if type ≠ .bool then throw (.ternaryCondition type)
  discard <| expect .questionMark "'?' in ternary expression"
  let onTrue ← expr scope .ternary
  discard <| expect .colon "':' in ternary expression"
  let onFalse ← expr scope .ternary
  let trueType ← typeOf onTrue
  let falseType ← typeOf onFalse
  if trueType ≠ falseType then throw (.ternaryBranches trueType falseType)
  return .ternary condition onTrue onFalse trueType

def call (expr : ExprParser) (scope : Scope) (callee : Expr) : Parse Expr := do
  discard <| expect .leftParenthesis "'(' in function call"
  let arguments ← expressions expr scope .rightParenthesis "')' after function call arguments"
  let type ← typeOf callee
  if type ≠ .string then throw (.notCallable type)
  return .call callee arguments

def subscript (expr : ExprParser) (scope : Scope) (operand : Expr) : Parse Expr := do
  discard <| expect .leftSquareBracket "'[' in subscript operation"
  let index ← expr scope .unknown
  discard <| expect .rightSquareBracket "']' after subscript index"
  let operandType ← typeOf operand
  let indexType ← typeOf index
  match operandType.element?, indexType with
  | some element, .number => return .subscript operand index element
  | _, _ => throw (.subscript operandType indexType)

def infixOperation (expr : ExprParser) (scope : Scope) (left : Expr) : Infix → Parse Expr
  | .binary op => do
    advance
    return .binary left op (← expr scope op.precedence)
  | .ternary => ternary expr scope left
  | .call => call expr scope left
  | .subscript => subscript expr scope left

/-- Operators behind an operand, as long as they bind more tightly than `least`. -/
def operatorsLoop (expr : ExprParser) (scope : Scope) (least : Precedence) :
    Nat → Expr → Parse Expr
  | 0, _ => throw .nesting
  | n + 1, left => do
    match (← currentKind).afterOperand? with
    | some op =>
      if op.precedence.isAbove least then
        operatorsLoop expr scope least n (← infixOperation expr scope left op)
      else return left
    | none => return left

/-- Operators behind an operand, as long as they bind more tightly than `least`. -/
def operators (expr : ExprParser) (scope : Scope) (least : Precedence) (left : Expr) :
    Parse Expr := do
  operatorsLoop expr scope least ((← get).length + 1) left

/-- An expression that is nested at most `depth` levels deep. -/
def expressionWithin (depth : Nat) : ExprParser := fun scope least =>
  match depth with
  | 0 => throw .nesting
  | depth + 1 => do
    let left ← operand (expressionWithin depth) scope
    operators (expressionWithin depth) scope least left

def expression : ExprParser := fun scope least => do
  expressionWithin ((← get).length + 1) scope least

/-! ### Statements -/

def dataType : Nat → Parse DataType
  | 0 => throw .nesting
  | n + 1 => do
    match ← currentKind with
    | .stringWord => advance; return .string
    | .numberWord => advance; return .number
    | .boolWord => advance; return .bool
    | .listWord =>
      advance
      discard <| expect .lessThan "'<' in list type"
      let element ← dataType n
      discard <| expect .greaterThan "'>' in list type"
      return .list element
    | _ => failExpected "data type"

def storeDeclaration (stores : List Store) : Parse Store := do
  let name := (← expect .identifier "store name").lexeme
  if stores.any (·.name == name) then throw (.storeRedefinition name)
  discard <| expect .equals "'=' after store name"
  let value ← expression { stores } .unknown
  discard <| expect .semicolon "';' after store declaration"
  return ⟨name, value⟩

def storeDeclarations (stores : List Store) : Nat → Parse (List Store)
  | 0 => throw .nesting
  | n + 1 => do
    if (← accept .storeWord).isSome then
      let store ← storeDeclaration stores
      storeDeclarations (stores ++ [store]) n
    else return stores

/-- The names of parameters behind those that have been read; a comma may stand behind the last. -/
def parameterNames (stores : List Store) (parameters : List String) : Nat → Parse (List String)
  | 0 => throw .nesting
  | n + 1 => do
    let name := (← expect .identifier "parameter name").lexeme
    if stores.any (·.name == name) then throw (.parameterShadowsStore name)
    if parameters.contains name then throw (.duplicateParameter name)
    let parameters := parameters ++ [name]
    if (← accept .comma).isSome then
      if (← currentKind) = .semicolon then return parameters
      parameterNames stores parameters n
    else return parameters

def parameterDeclaration (stores : List Store) : Parse (List String) := do
  if (← accept .paramsWord).isSome then
    let names ← parameterNames stores [] ((← get).length + 1)
    discard <| expect .semicolon "';' after parameter list"
    return names
  else return []

def printStatement (scope : Scope) : Parse Statement := do
  discard <| expect .printWord "'print' keyword"
  let e ← expression scope .unknown
  match e.dataType with
  | .ok _ => return .print e
  | .error .untypedEmptyList => throw (.typing .untypedEmptyList)
  | .error fault => throw (.printType fault)

def assignment (scope : Scope) : Parse Statement := do
  let name := (← expect .identifier "assignment target").lexeme
  let target ← scope.resolve name
  discard <| expect .equals "'=' in assignment"
  let value ← expression scope .unknown
  match value with
  | .emptyLists literal =>
    match target.dataType with
    | .list element => return .assign target (← literal.reify element)
    | type => throw (.emptyListToOther type)
  | _ =>
    let type ← typeOf value
    if target.dataType ≠ type then throw (.assignmentType target.dataType type)
    return .assign target value

def annotation : Parse (Option DataType) := do
  if (← accept .colon).isSome then return some (← dataType ((← get).length + 1)) else return none

def definition (scope : Scope) : Parse (String × DataType × Expr) := do
  discard <| expect .letWord "'let' keyword"
  let name ← freshName scope "variable name"
  let annotated ← annotation
  discard <| expect .equals "'=' in variable definition"
  let value ← expression scope .unknown
  match value with
  | .emptyLists literal =>
    match annotated with
    | none => throw .emptyListWithoutType
    | some (.list element) => return (name, .list element, ← literal.reify element)
    | some type => throw (.initializationType name type none)
  | _ =>
    let type ← typeOf value
    if let some expected := annotated then
      if expected ≠ type then throw (.initializationType name expected (some type))
    return (name, type, value)

def statement (scope : Scope) : Parse (Statement × Scope) := do
  let result ← do
    match ← currentKind with
    | .printWord => pure (← printStatement scope, scope)
    | .identifier => pure (← assignment scope, scope)
    | .letWord =>
      let (name, type, value) ← definition scope
      pure (.define name type value, scope.bind name type)
    | _ => failExpected "statement"
  discard <| expect .semicolon "';' after statement"
  return result

def statements (scope : Scope) : Nat → Parse (List Statement)
  | 0 => throw .nesting
  | n + 1 => do
    if (← currentKind) = .endOfInput then return []
    let (first, scope) ← statement scope
    return first :: (← statements scope n)

def script (name : String) : Parse Script := do
  let stores ← storeDeclarations [] ((← get).length + 1)
  let parameters ← parameterDeclaration stores
  let body ← statements { stores, parameters } ((← get).length + 1)
  if body.isEmpty then failExpected "at least one statement"
  return { name, stores, parameters, statements := body }

end Parser

def parse (name : String) (tokens : List Token) : Except ParseFault Script :=
  (Parser.script name tokens).map (·.1)

end StreamBot.Script
