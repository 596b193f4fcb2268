import StreamBot.Script.Fault

/-! # What operators do to values -/

namespace StreamBot.Script

/-- The number that a text writes: a number literal, perhaps behind a sign.  Only the first two tokens of
the text are looked at. -/
def numberOfText (s : String) : Except Fault Float :=
  let read (t : Token) : Except Fault Float :=
    match Decimal.read? t.lexeme.toList with
    | some x => .ok x
    | none => .error (.numberText t.lexeme)
  match tokenize s with
  | .error error => .error (.notLexable s error)
  | .ok (first :: second :: _) =>
    match first.kind, second.kind with
    | .numberLiteral, .endOfInput => read first
    | .plus, .numberLiteral => read second
    | .minus, .numberLiteral => (read second).map (- ·)
    | _, _ => .error (.notNumber s)
  | .ok _ => .error (.notNumber s)

def boolOfText (s : String) : Except Fault Bool :=
  if s = "true" then .ok true
  else if s = "false" then .ok false
  else .error (.notBool s)

/-- The result of an operator that does not run code. -/
def UnaryOp.apply (op : UnaryOp) (v : Value) : Except Fault Value :=
  match op, v with
  | .plus, .number x => .ok (.number x)
  | .negate, .number x => .ok (.number (-x))
  | .not, .bool b => .ok (.bool (!b))
  | .toNumber, .number x => .ok (.number x)
  | .toNumber, .bool b => .ok (.number (if b then 1.0 else 0.0))
  | .toNumber, .string s => (numberOfText s).map .number
  | .toText, .bool b => .ok (.string (Value.boolText b))
  | .toText, .number x => .ok (.string (Decimal.plainText x))
  | .toText, .string s => .ok (.string s)
  | .toBool, .bool b => .ok (.bool b)
  | .toBool, .number x => .ok (.bool (x != 0.0))
  | .toBool, .string s => (boolOfText s).map .bool
  | op, v => .error (.unaryOperand op v.dataType)

/-- The integers from `start` to `stop`, in the direction that leads there. -/
def integersTo (start stop : Int) : List Int :=
  if start ≤ stop then (List.range (stop - start + 1).toNat).map fun (i : Nat) => start + (i : Int)
  else (List.range (start - stop + 1).toNat).map fun (i : Nat) => start - (i : Int)

def rangeList (op : BinaryOp) (start stop : Float) : Except Fault Value :=
  match Decimal.toInt? start, Decimal.toInt? stop with
  | none, _ => .error (.rangeStart op start)
  | _, none => .error (.rangeEnd op stop)
  | some a, some b =>
    let numbers := integersTo a b
    let numbers := if op = .rangeInclusive then numbers else numbers.dropLast
    .ok (.list .number (numbers.map fun n => .number (Float.ofInt n)))

def compareNumbers (l : Float) (op : BinaryOp) (r : Float) : Option Bool :=
  match op with
  | .equal => some (l == r)
  | .notEqual => some (l != r)
  | .less => some (decide (l < r))
  | .lessEqual => some (decide (l ≤ r))
  | .greater => some (decide (r < l))
  | .greaterEqual => some (decide (r ≤ l))
  | _ => none

def compareTexts (l : String) (op : BinaryOp) (r : String) : Option Bool :=
  match op with
  | .equal => some (l == r)
  | .notEqual => some (l != r)
  | .less => some (decide (l < r))
  | .lessEqual => some (!decide (r < l))
  | .greater => some (decide (r < l))
  | .greaterEqual => some (!decide (l < r))
  | _ => none

def calculate (l : Float) (op : BinaryOp) (r : Float) : Option (Except Fault Float) :=
  match op with
  | .add => some (.ok (l + r))
  | .subtract => some (.ok (l - r))
  | .multiply => some (.ok (l * r))
  | .divide => some (if r == 0.0 then .error .divisionByZero else .ok (l / r))
  | .modulo => some (if r == 0.0 then .error .moduloByZero else .ok (Decimal.floorMod l r))
  | _ => none

def BinaryOp.apply (left : Value) (op : BinaryOp) (right : Value) : Except Fault Value :=
  let other : Except Fault Value := .error (.binaryOperands left.dataType op right.dataType)
  match left, right with
  | .bool l, .bool r =>
    match op with
    | .equal => .ok (.bool (l == r))
    | .notEqual => .ok (.bool (l != r))
    | _ => other
  | .number l, .number r =>
    match compareNumbers l op r, calculate l op r with
    | some b, _ => .ok (.bool b)
    | none, some result => result.map .number
    | none, none => if op.isRange then rangeList op l r else other
  | .string l, .string r =>
    match compareTexts l op r with
    | some b => .ok (.bool b)
    | none => if op = .add then .ok (.string (l ++ r)) else other
  | .list a xs, .list b ys =>
    if op = .add then
      if a = b then .ok (.list a (xs ++ ys)) else .error (.listConcatenation a b)
    else other
  | _, _ => other

def Value.at (v index : Value) : Except Fault Value :=
  match v, index with
  | .string s, .number x =>
    match Decimal.toInt? x with
    | none => .error (.stringIndex x)
    | some i =>
      match if i < 0 then none else s.toList[i.toNat]? with
      | some c => .ok (.string c.toString)
      | none => .error (.stringIndexRange i s.length)
  | .list _ elements, .number x =>
    match Decimal.toInt? x with
    | none => .error (.listIndex x)
    | some i =>
      match if i < 0 then none else elements[i.toNat]? with
      | some v => .ok v
      | none => .error (.listIndexRange i elements.length)
  | v, index => .error (.subscript v.dataType index.dataType)

/-- What a loop takes from a value: the characters of a text or the elements of a list. -/
def Value.items? : Value → Option (List Value)
  | .string s => some (s.toList.map fun c => .string c.toString)
  | .list _ elements => some elements
  | _ => none

def Value.isTrue : Value → Bool
  | .bool b => b
  | _ => false

def splitText (s d : String) : Except Fault Value :=
  if d.isEmpty then .error .splitAtNothing
  else .ok (.list .string ((Text.splitOn s d).map .string))

def textsOf : List Value → Except Fault (List String)
  | [] => .ok []
  | .string s :: rest => do return s :: (← textsOf rest)
  | v :: _ => .error (.joinElement v.dataType)

/-- The order of numbers: the left one comes first unless the right one is less. -/
def numbersInOrder (left right : Value) : Except Fault Bool :=
  match left, right with
  | .number l, .number r => .ok (decide (l < r) || !decide (r < l))
  | _, _ => .error .sortNumbers

end StreamBot.Script
