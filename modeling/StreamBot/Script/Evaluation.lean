import StreamBot.Script.BuiltinCall
import StreamBot.Script.Operation

/-! # Evaluating expressions

Loops write their variables into the frame, where they stay.  A call of a script reads the stores in its
arguments on behalf of the script that is called.
-/

namespace StreamBot

/-! ## Sorting with a comparison that has effects

A stable merge sort: halves are sorted, and the merged list takes from the left half as long as the
comparison does not prefer the right one.
-/

variable {m : Type → Type} [Monad m] {α : Type}

/-- Two lists merged into one; `takeLeft` tells whether the head of the first list comes next. -/
def mergeM (takeLeft : α → α → m Bool) : List α → List α → m (List α)
  | [], ys => pure ys
  | xs, [] => pure xs
  | x :: xs, y :: ys => do
    if ← takeLeft x y then return x :: (← mergeM takeLeft xs (y :: ys))
    else return y :: (← mergeM takeLeft (x :: xs) ys)
termination_by xs ys => xs.length + ys.length

def mergeSortM (takeLeft : α → α → m Bool) (xs : List α) : m (List α) :=
  if h : xs.length ≤ 1 then pure xs
  else do
    let left ← mergeSortM takeLeft (xs.take (xs.length / 2))
    let right ← mergeSortM takeLeft (xs.drop (xs.length / 2))
    mergeM takeLeft left right
termination_by xs.length
decreasing_by all_goals simp; omega

end StreamBot

namespace StreamBot.Script

/-! ## Expressions -/

variable {σ : Type}

def Eval.ofExcept {α : Type} (r : Except Fault α) : Eval σ α :=
  match r with
  | .ok a => pure a
  | .error fault => throw fault

/-- A value that was looked up must have the type that its name had. -/
def checkedRead (kind : NameKind) (name : String) (type : DataType) (v : Value) : Eval σ Value :=
  if v.dataType = type then pure v else throw (.readType kind name type v.dataType)

def readStore (name : String) (type : DataType) : Eval σ Value := do
  let f ← get
  match Dict.get? f.stores ⟨f.owner, name⟩ with
  | some v => checkedRead .store name type v
  | none => throw (.storeMissing name)

def readParameter (name : String) : Eval σ Value := do
  match Dict.get? (← get).parameters name with
  | some v => checkedRead .parameter name .string v
  | none => throw (.parameterMissing name)

def readVariable (name : String) (type : DataType) : Eval σ Value := do
  match Dict.get? (← get).bindings name with
  | some v => checkedRead .var name type v
  | none => throw (.variableMissing name)

def conditionHolds (condition : Option (Eval σ Value)) : Eval σ Bool :=
  match condition with
  | none => return true
  | some c => do return (← c).isTrue

/-- The results of a comprehension: the body for each item for which the condition is true. -/
def comprehend (name : String) (condition : Option (Eval σ Value)) (body : Eval σ Value) :
    List Value → Eval σ (List Value)
  | [] => return []
  | item :: rest => do
    Eval.setVariable name item
    if ← conditionHolds condition then
      let v ← body
      return v :: (← comprehend name condition body rest)
    else comprehend name condition body rest

def foldItems (accumulator element : String) (type : Except TypeFault DataType)
    (body : Eval σ Value) (current : Value) : List Value → Eval σ Value
  | [] => return current
  | item :: rest => do
    Eval.setVariable accumulator current
    Eval.setVariable element item
    let next ← body
    let type' ← Eval.typeOf type
    if next.dataType ≠ type' then throw (.foldAccumulator next.dataType type')
    foldItems accumulator element type body next rest

/-- The truth value of a comparison with two values under the names of its variables. -/
def compareWith (left right : String) (comparison : Eval σ Value) (x y : Value) : Eval σ Bool := do
  Eval.setVariable left x
  Eval.setVariable right y
  match ← comparison with
  | .bool b => return b
  | v => throw (.sortComparison v.dataType)

/-- The left value comes first unless only the right one is less than the other. -/
def leftFirst (left right : Option String) (comparison : Eval σ Value) (x y : Value) :
    Eval σ Bool := do
  match left, right with
  | some left, some right =>
    if ← compareWith left right comparison x y then return true
    return !(← compareWith left right comparison y x)
  | _, _ => throw .sortNames

mutual

def Expr.eval (h : Host σ) : Expr → Eval σ Value
  | .numberLiteral x => return .number x
  | .stringLiteral s => return .string s
  | .boolLiteral b => return .bool b
  | .listLiteral element elements => do return .list element (← Expr.evalAll h elements)
  | .emptyLists _ => throw .untypedEmptyLists
  | .store name type => readStore name type
  | .parameter name => readParameter name
  | .var name type => readVariable name type
  | .unary op operand => do
    let v ← operand.eval h
    match op, v with
    | .evaluate, .string code => do return .string (← h.evaluate code)
    | op, v => Eval.ofExcept (op.apply v)
  | .binary left op right => do
    let l ← left.eval h
    match l, op with
    | .bool false, .and => return .bool false
    | .bool true, .or => return .bool true
    | .bool _, .and | .bool _, .or =>
      match ← right.eval h with
      | .bool r => return .bool r
      | v => throw (.boolNeeded op v.dataType)
    | l, op => do
      let r ← right.eval h
      Eval.ofExcept (BinaryOp.apply l op r)
  | .ternary condition onTrue onFalse _ => do
    match ← condition.eval h with
    | .bool true => onTrue.eval h
    | .bool false => onFalse.eval h
    | v => throw (.ternaryCondition v.dataType)
  | .call callee arguments => do
    match ← callee.eval h with
    | .string name =>
      match Builtin.ofName? name with
      | some f => do return .string (← f.call h.world (Expr.arguments h arguments))
      | none => do
        Eval.enter name
        let values ← Expr.evalAll h arguments
        let output ← h.call name (values.map (·.text))
        Eval.leave
        return .string output
    | v => throw (.callee v.dataType)
  | .subscript operand index _ => do
    let v ← operand.eval h
    let i ← index.eval h
    Eval.ofExcept (v.at i)
  | .comprehension iterable element condition body => do
    let v ← iterable.eval h
    match v.items? with
    | some items => do
      let values ← comprehend element (Expr.evalOption h condition) (body.eval h) items
      return .list (← Eval.typeOf body.dataType) values
    | none => throw (.comprehensionIterable v.dataType)
  | .fold iterable start accumulator element body => do
    let v ← iterable.eval h
    match v.items? with
    | some items => do
      let first ← start.eval h
      let type ← Eval.typeOf body.dataType
      if first.dataType ≠ type then throw (.foldStart first.dataType type)
      foldItems accumulator element body.dataType (body.eval h) first items
    | none => throw (.foldIterable v.dataType)
  | .split text delimiter => do
    match ← text.eval h with
    | .string s =>
      match Expr.evalOption h delimiter with
      | none => Eval.ofExcept (splitText s " ")
      | some d =>
        match ← d with
        | .string d => Eval.ofExcept (splitText s d)
        | v => throw (.splitDelimiter v.dataType)
    | v => throw (.splitText v.dataType)
  | .join list delimiter => do
    match ← list.eval h with
    | .list _ elements => do
      let parts ← Eval.ofExcept (textsOf elements)
      match Expr.evalOption h delimiter with
      | none => return .string (Text.join "" parts)
      | some d =>
        match ← d with
        | .string d => return .string (Text.join d parts)
        | v => throw (.joinDelimiter v.dataType)
    | v => throw (.joinList v.dataType)
  | .sort list left right comparison => do
    match ← list.eval h with
    | .list element elements =>
      if elements.length ≤ 1 then return .list element elements
      else match Expr.evalOption h comparison with
        | none => do
          return .list element
            (← mergeSortM (fun x y => Eval.ofExcept (numbersInOrder x y)) elements)
        | some c => do return .list element (← mergeSortM (leftFirst left right c) elements)
    | v => throw (.sortList v.dataType)

def Expr.evalAll (h : Host σ) : List Expr → Eval σ (List Value)
  | [] => return []
  | e :: rest => do
    let v ← e.eval h
    return v :: (← Expr.evalAll h rest)

def Expr.evalOption (h : Host σ) : Option Expr → Option (Eval σ Value)
  | none => none
  | some e => some (e.eval h)

def Expr.arguments (h : Host σ) : List Expr → List (Argument σ)
  | [] => []
  | e :: rest => ⟨e.dataType, e.eval h⟩ :: Expr.arguments h rest

end

end StreamBot.Script
