import StreamBot.Dict
import StreamBot.Script.Fault
import StreamBot.Text.Case
import StreamBot.Time.Calendar

/-! # Built-in functions and where scripts run -/

namespace StreamBot.Script

/-! ## Where scripts run

An execution has a frame of its own: the names of the scripts on whose behalf it reads stores, working
copies of its stores, its parameters and its variables.  Everything else belongs to the host: the outside
world, and the way to call other scripts.  The state of the host outlives a failure, the frame does not.
-/

structure StoreKey where
  script : String
  name : String
  deriving Repr, DecidableEq, Inhabited

structure Frame where
  /-- The scripts on whose behalf stores are read, the innermost first. -/
  callStack : List String
  stores : Dict StoreKey Value := []
  parameters : Dict String Value := []
  bindings : Dict String Value := []

def Frame.owner (f : Frame) : String := f.callStack.head?.getD ""

structure World where
  now : Time.Instant
  /-- What is drawn when a random number between zero and one is needed. -/
  chance : Float
  files : DataDirectory

/-- A computation with the state of a host that can fail. -/
abbrev Act (σ α : Type) := ExceptT Fault (StateM σ) α

abbrev Eval (σ α : Type) := StateT Frame (Act σ) α

structure Host (σ : Type) where
  world : World
  call : String → List String → Act σ String
  evaluate : String → Act σ String
  /-- What is done before each statement, so that an execution that takes too long can be stopped. -/
  pause : Act σ Unit := pure ()

/-- How the values of stores are kept between executions. -/
structure Keeper (σ : Type) where
  read : List StoreKey → Act σ (Dict StoreKey Value)
  write : Dict StoreKey Value → Act σ Unit

def Keeper.nothing {σ : Type} : Keeper σ := ⟨fun _ => pure [], fun _ => pure ()⟩

namespace Eval

variable {σ : Type}

def setVariable (name : String) (value : Value) : Eval σ Unit :=
  modify fun f => { f with bindings := Dict.set f.bindings name value }

def enter (script : String) : Eval σ Unit :=
  modify fun f => { f with callStack := script :: f.callStack }

def leave : Eval σ Unit := modify fun f => { f with callStack := f.callStack.tail }

def typeOf (type : Except TypeFault DataType) : Eval σ DataType :=
  match type with
  | .ok type => pure type
  | .error fault => throw (.typing fault)

end Eval

/-! ## What built-in functions do

A function gets its arguments as they stand in the source, so that it can ask for the type of one that it
does not evaluate.  All results are texts.
-/

structure Argument (σ : Type) where
  type : Except TypeFault DataType
  value : Eval σ Value

variable {σ : Type}

def Argument.all : List (Argument σ) → Eval σ (List Value)
  | [] => return []
  | a :: rest => do
    let v ← a.value
    return v :: (← Argument.all rest)

mutual

/-- Two values are equal: lists of one type and length, element by element.  Elements of different kinds
cannot be compared. -/
def Value.same : Value → Value → Except BuiltinFault Bool
  | .string l, .string r => .ok (l == r)
  | .number l, .number r => .ok (l == r)
  | .bool l, .bool r => .ok (l == r)
  | .list a xs, .list b ys =>
    if a = b ∧ xs.length = ys.length then Value.sameAll xs ys else .ok false
  | _, _ => .error .unlikeElements

/-- Values are equal one by one; the first difference decides. -/
def Value.sameAll : List Value → List Value → Except BuiltinFault Bool
  | x :: xs, y :: ys => do
    if ← Value.same x y then Value.sameAll xs ys else return false
  | _, _ => .ok true

end

/-- A value is among others; the first that is equal decides. -/
def Value.isAmong (v : Value) : List Value → Except BuiltinFault Bool
  | [] => .ok false
  | x :: rest => do
    if ← v.same x then return true else v.isAmong rest

def Value.containsValue (haystack needle : Value) : Except BuiltinFault Bool :=
  match haystack, needle with
  | .string s, .string part => .ok (Text.contains s part)
  | .list element elements, needle =>
    if needle.dataType = element then needle.isAmong elements
    else .error (.containsElement needle.dataType (.list element))
  | _, _ => .error .containsArguments

/-- The better of two leaves, by the order that a function looks for. -/
def better (f : Builtin) (best v : Value) : Except BuiltinFault Value :=
  let wins {α : Type} [LT α] (x y : α) [Decidable (x < y)] [Decidable (y < x)] : Bool :=
    if f = .max then decide (y < x) else decide (x < y)
  let number (b : Bool) : Float := if b then 1.0 else 0.0
  match v, best with
  | .number x, .number y => .ok (if wins x y then v else best)
  | .string x, .string y => .ok (if wins x y then v else best)
  | .bool x, .bool y => .ok (if wins (number x) (number y) then v else best)
  | .bool x, .number y => .ok (if wins (number x) y then v else best)
  | .number x, .bool y => .ok (if wins x (number y) then v else best)
  | .string _, .number _ => .error (.notComparable f "str" "float")
  | .string _, .bool _ => .error (.notComparable f "str" "bool")
  | .number _, .string _ => .error (.notComparable f "float" "str")
  | .bool _, .string _ => .error (.notComparable f "bool" "str")
  | _, _ => .error .listHasNoValue

def bestOf (f : Builtin) : List Value → Except BuiltinFault Value
  | [] => .error (.emptyList f)
  | .list _ _ :: _ => .error .listHasNoValue
  | first :: rest => rest.foldlM (better f) first

/-- A leaf as a number in text.  A truth value counts as one or zero. -/
def numberText : Value → Except BuiltinFault String
  | .number x => .ok (Decimal.plainText x)
  | .string _ => .error .textInNumbers
  | .bool b => .ok (if b then "1" else "0")
  | .list _ _ => .error .listHasNoValue

def numbersOf (f : Builtin) (position : Nat) : List Value → Except BuiltinFault (List Float)
  | [] => .ok []
  | .number x :: rest => do return x :: (← numbersOf f (position + 1) rest)
  | v :: _ => .error (.numberNeededAt f v.dataType position)

/-- The least or greatest of the arguments, or of the elements of a list that is the only argument. -/
def extreme (f : Builtin) (values : List Value) : Except BuiltinFault String :=
  match values with
  | [.list element elements] =>
    if element ≠ .number then .error (.numberListNeeded f element)
    else do numberText (← bestOf f elements)
  | _ => do
    let numbers ← numbersOf f 1 values
    numberText (← bestOf f (numbers.map .number))

def integerText (x : Float) (rounded : Option Int) : Except BuiltinFault String :=
  match rounded with
  | some n => .ok (toString n)
  | none => .error (if x.isNaN then .undefinedToInteger else .infiniteToInteger)

def numberArgument (f : Builtin) : Value → Except BuiltinFault Float
  | .number x => .ok x
  | v => .error (.numberNeeded f v.dataType)

def textArgument (f : Builtin) : Value → Except BuiltinFault String
  | .string s => .ok s
  | v => .error (.stringNeeded f v.dataType)

def Builtin.ofOne (w : World) (f : Builtin) (v : Value) : Except BuiltinFault String :=
  match f with
  | .length =>
    match v with
    | .string s => .ok (toString s.length)
    | .list _ elements => .ok (toString elements.length)
    | v => .error (.lengthNeeds v.dataType)
  | .upper => (textArgument f v).map Text.upper
  | .lower => (textArgument f v).map Text.lower
  | .trim => (textArgument f v).map Text.strip
  | .abs => (numberArgument f v).map fun x => Decimal.plainText x.abs
  | .round => do let x ← numberArgument f v; integerText x (Decimal.round? x)
  | .floor => do let x ← numberArgument f v; integerText x (Decimal.floor? x)
  | .ceil => do let x ← numberArgument f v; integerText x (Decimal.ceil? x)
  | .sqrt => do
    let x ← numberArgument f v
    if x < 0.0 then .error (.negativeRoot x) else .ok (Decimal.plainText x.sqrt)
  | .date =>
    match v with
    | .string s => .ok (w.now.date.format s.toList)
    | v => .error (.dateFormat v.dataType)
  | .readFile =>
    match v with
    | .string path => (w.files.read path).mapError (.file path)
    | v => .error (.filePath v.dataType)
  | _ => .error (.argumentCount f 1)

def Builtin.ofTwo (w : World) (f : Builtin) (a b : Value) : Except BuiltinFault String :=
  match f with
  | .contains => (a.containsValue b).map Value.boolText
  | .startsWith =>
    match a, b with
    | .string s, .string part => .ok (Value.boolText (Text.startsWith s part))
    | _, _ => .error (.stringsNeeded f a.dataType b.dataType)
  | .endsWith =>
    match a, b with
    | .string s, .string part => .ok (Value.boolText (Text.endsWith s part))
    | _, _ => .error (.stringsNeeded f a.dataType b.dataType)
  | .pow => do
    match ← numbersOf f 1 [a, b] with
    | [base, exponent] =>
      return Decimal.plainText (← (Decimal.power base exponent).mapError .power)
    | _ => .error (.argumentCount f 2)
  | .random => do
    match ← numbersOf f 1 [a, b] with
    | [low, high] => return Decimal.plainText (low + (high - low) * w.chance)
    | _ => .error (.argumentCount f 2)
  | _ => .error (.argumentCount f 2)

/-- Replaces a part of a text; each argument is checked before the next one is evaluated. -/
def replaceCall (text old new : Argument σ) : Eval σ String := do
  let fail {α : Type} (fault : BuiltinFault) : Eval σ α := throw (.builtin fault)
  match ← text.value with
  | .string s =>
    match ← old.value with
    | .string part =>
      match ← new.value with
      | .string other => return Text.replace s part other
      | v => fail (.replaceNew v.dataType)
    | v => fail (.replaceOld v.dataType)
  | v => fail (.replaceIn v.dataType)

def Arity.allows : Arity → Nat → Bool
  | exactly count, n => n == count
  | atLeast count, n => decide (count ≤ n)

def Builtin.call (w : World) (f : Builtin) (arguments : List (Argument σ)) : Eval σ String := do
  let result (r : Except BuiltinFault String) : Eval σ String :=
    match r with
    | .ok s => pure s
    | .error fault => throw (.builtin fault)
  if !f.arity.allows arguments.length then
    throw (.builtin (.argumentCount f arguments.length))
  match f, arguments with
  | .type, [a] => return (← Eval.typeOf a.type).text
  | .timestamp, _ => return Decimal.plainText w.now.seconds
  | .replace, [text, old, new] => replaceCall text old new
  | .min, _ => do result (extreme f (← Argument.all arguments))
  | .max, _ => do result (extreme f (← Argument.all arguments))
  | _, [a] => do result (f.ofOne w (← a.value))
  | _, [a, b] => do
    let first ← a.value
    let second ← b.value
    result (f.ofTwo w first second)
  | _, _ => throw (.builtin (.argumentCount f arguments.length))

end StreamBot.Script
