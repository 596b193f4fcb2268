import StreamBot.Json.Basic
import StreamBot.Script.Tree

/-! # Scripts as JSON

The form in which scripts and the values of their stores are kept.  Every node is an object; a field says
which kind of node it is.
-/

namespace StreamBot.Script

open Expr

/-! ### Types and values -/

def DataType.toJson : DataType → Json
  | number => .obj [("kind", .str "number")]
  | string => .obj [("kind", .str "string")]
  | bool => .obj [("kind", .str "bool")]
  | list element => .obj [("kind", .str "list"), ("of_type", element.toJson)]

def DataType.ofJson? : Nat → Json → Option DataType
  | 0, _ => none
  | n + 1, j => do
    match ← (← j.get? "kind").text? with
    | "number" => return .number
    | "string" => return .string
    | "bool" => return .bool
    | "list" => return .list (← DataType.ofJson? n (← j.get? "of_type"))
    | _ => none

mutual

def Value.toJson : Value → Json
  | .number x => .obj [("kind", .str "number"), ("value", .float x)]
  | .string s => .obj [("kind", .str "string"), ("value", .str s)]
  | .bool b => .obj [("kind", .str "bool"), ("value", .bool b)]
  | .list element elements =>
    .obj [("kind", .str "list"), ("element_type", element.toJson),
      ("elements", .arr (Value.allToJson elements))]

def Value.allToJson : List Value → List Json
  | [] => []
  | v :: rest => v.toJson :: Value.allToJson rest

end

/-- The value that was kept for a store; only numbers and texts can be read. -/
def Value.ofStored? (j : Json) : Option Value := do
  match ← (← j.get? "kind").text? with
  | "number" => return .number (← (← j.get? "value").number?)
  | "string" => return .string (← (← j.get? "value").text?)
  | _ => none

/-! ### Operators -/

def UnaryOp.all : List UnaryOp := [.plus, .negate, .toNumber, .toText, .toBool, .evaluate, .not]

def UnaryOp.ofText? (s : String) : Option UnaryOp := all.find? (·.text == s)

def BinaryOp.all : List BinaryOp := [
  .add, .subtract, .multiply, .divide, .modulo, .equal, .notEqual, .less, .lessEqual, .greater,
  .greaterEqual, .and, .or, .rangeInclusive, .rangeExclusive]

def BinaryOp.ofText? (s : String) : Option BinaryOp := all.find? (·.text == s)

/-! ### Trees -/

mutual

def EmptyLists.toJson : EmptyLists → Json
  | .nest members =>
    .obj [("expression_type", .str "list_of_empty_lists_literal"),
      ("nested_empty_lists", .arr (EmptyLists.allToJson members))]

def EmptyLists.allToJson : List EmptyLists → List Json
  | [] => []
  | l :: rest => l.toJson :: EmptyLists.allToJson rest

end

def node (kind : String) (fields : List (String × Json)) : Json :=
  .obj (("expression_type", .str kind) :: fields)

mutual

def Expr.toJson : Expr → Json
  | .numberLiteral x => node "number_literal" [("value", .float x)]
  | .stringLiteral s => node "string_literal" [("value", .str s)]
  | .boolLiteral b => node "bool_literal" [("value", .bool b)]
  | .listLiteral element elements =>
    node "list_literal" [("elements", .arr (allToJson elements)), ("element_type", element.toJson)]
  | .emptyLists literal => literal.toJson
  | .store name type =>
    node "store_identifier" [("store_name", .str name), ("data_type", type.toJson)]
  | .parameter name => node "parameter_identifier" [("parameter_name", .str name)]
  | .var name type =>
    node "variable_identifier" [("variable_name", .str name), ("data_type", type.toJson)]
  | .unary op operand =>
    node "unary_operation" [("operator", .str op.text), ("operand", operand.toJson)]
  | .binary left op right =>
    node "binary_operation"
      [("left", left.toJson), ("operator", .str op.text), ("right", right.toJson)]
  | .ternary condition onTrue onFalse type =>
    node "ternary_operation" [("condition", condition.toJson), ("true_expression", onTrue.toJson),
      ("false_expression", onFalse.toJson), ("data_type", type.toJson)]
  | .call callee arguments =>
    node "call_operation"
      [("callee", callee.toJson), ("arguments", .arr (allToJson arguments))]
  | .subscript operand index type =>
    node "subscript_operation"
      [("operand", operand.toJson), ("index", index.toJson), ("data_type", type.toJson)]
  | .comprehension iterable element condition body =>
    node "list_comprehension" [("iterable", iterable.toJson), ("element_variable_name", .str element),
      ("condition", optionToJson condition), ("expression", body.toJson)]
  | .fold iterable start accumulator element body =>
    node "fold" [("iterable", iterable.toJson), ("start", start.toJson),
      ("accumulator_variable_name", .str accumulator), ("element_variable_name", .str element),
      ("expression", body.toJson)]
  | .split text delimiter =>
    node "split_operation"
      [("string_expression", text.toJson), ("delimiter_expression", optionToJson delimiter)]
  | .join list delimiter =>
    node "join_operation"
      [("list_expression", list.toJson), ("delimiter_expression", optionToJson delimiter)]
  | .sort list left right comparison =>
    node "sort_operation" [("list_expression", list.toJson), ("lhs_variable_name", Json.ofText? left),
      ("rhs_variable_name", Json.ofText? right),
      ("comparison_expression", optionToJson comparison)]

def Expr.allToJson : List Expr → List Json
  | [] => []
  | e :: rest => e.toJson :: allToJson rest

def Expr.optionToJson : Option Expr → Json
  | none => .null
  | some e => e.toJson

end

def Target.toJson (target : Target) : Json := target.read.toJson

def Statement.toJson : Statement → Json
  | print argument => .obj [("kind", .str "print"), ("argument", argument.toJson)]
  | assign target value =>
    .obj [("kind", .str "assignment"), ("assignment_target", target.toJson),
      ("expression", value.toJson)]
  | define name type value =>
    .obj [("kind", .str "variable_definition"), ("variable_name", .str name),
      ("data_type", type.toJson), ("initial_value", value.toJson)]

def Store.toJson (store : Store) : Json :=
  .obj [("name", .str store.name), ("value", store.value.toJson)]

/-! ### Reading -/

/-- What may be absent, read from null or from its own form. -/
def optional? {α : Type} (read : Json → Option α) : Json → Option (Option α)
  | .null => some none
  | j => return some (← read j)

def EmptyLists.ofJson? : Nat → Json → Option EmptyLists
  | 0, _ => none
  | n + 1, j => do
    let items ← (← j.get? "nested_empty_lists").items?
    return .nest (← items.mapM (EmptyLists.ofJson? n))

def Expr.ofJson? : Nat → Json → Option Expr
  | 0, _ => none
  | n + 1, j => do
    let type (name : String) : Option DataType := do DataType.ofJson? n (← j.get? name)
    let name (field : String) : Option String := do (← j.get? field).text?
    let expr (field : String) : Option Expr := do ofJson? n (← j.get? field)
    let exprs (field : String) : Option (List Expr) := do
      (← (← j.get? field).items?).mapM (ofJson? n)
    let optional (field : String) : Option (Option Expr) := do
      optional? (ofJson? n) (← j.get? field)
    match ← name "expression_type" with
    | "number_literal" => return .numberLiteral (← (← j.get? "value").number?)
    | "string_literal" => return .stringLiteral (← name "value")
    | "bool_literal" => return .boolLiteral (← (← j.get? "value").bool?)
    | "list_literal" => return .listLiteral (← type "element_type") (← exprs "elements")
    | "list_of_empty_lists_literal" => return .emptyLists (← EmptyLists.ofJson? (n + 1) j)
    | "store_identifier" => return .store (← name "store_name") (← type "data_type")
    | "parameter_identifier" => return .parameter (← name "parameter_name")
    | "variable_identifier" => return .var (← name "variable_name") (← type "data_type")
    | "unary_operation" =>
      return .unary (← UnaryOp.ofText? (← name "operator")) (← expr "operand")
    | "binary_operation" =>
      return .binary (← expr "left") (← BinaryOp.ofText? (← name "operator")) (← expr "right")
    | "ternary_operation" =>
      return .ternary (← expr "condition") (← expr "true_expression") (← expr "false_expression")
        (← type "data_type")
    | "call_operation" => return .call (← expr "callee") (← exprs "arguments")
    | "subscript_operation" =>
      return .subscript (← expr "operand") (← expr "index") (← type "data_type")
    | "list_comprehension" =>
      return .comprehension (← expr "iterable") (← name "element_variable_name")
        (← optional "condition") (← expr "expression")
    | "fold" =>
      return .fold (← expr "iterable") (← expr "start") (← name "accumulator_variable_name")
        (← name "element_variable_name") (← expr "expression")
    | "split_operation" =>
      return .split (← expr "string_expression") (← optional "delimiter_expression")
    | "join_operation" =>
      return .join (← expr "list_expression") (← optional "delimiter_expression")
    | "sort_operation" =>
      return .sort (← expr "list_expression") (← optional? Json.text? (← j.get? "lhs_variable_name"))
        (← optional? Json.text? (← j.get? "rhs_variable_name")) (← optional "comparison_expression")
    | _ => none

def Expr.read? (j : Json) : Option Expr := ofJson? j.depth j

def DataType.read? (j : Json) : Option DataType := DataType.ofJson? j.depth j

/-- What an assignment changes: one of the three kinds of names. -/
def Target.read? (j : Json) : Option Target := do
  match ← Expr.read? j with
  | .store name type => return .store name type
  | .parameter name => return .parameter name
  | .var name type => return .var name type
  | _ => none

def Statement.read? (j : Json) : Option Statement := do
  match ← (← j.get? "kind").text? with
  | "print" => return .print (← Expr.read? (← j.get? "argument"))
  | "assignment" =>
    return .assign (← Target.read? (← j.get? "assignment_target"))
      (← Expr.read? (← j.get? "expression"))
  | "variable_definition" =>
    return .define (← (← j.get? "variable_name").text?) (← DataType.read? (← j.get? "data_type"))
      (← Expr.read? (← j.get? "initial_value"))
  | _ => none

def Store.read? (j : Json) : Option Store := do
  return ⟨← (← j.get? "name").text?, ← Expr.read? (← j.get? "value")⟩

end StreamBot.Script

namespace StreamBot

def Script.toJson (script : Script) : Json :=
  .obj [("name", .str script.name), ("stores", .arr (script.stores.map (·.toJson))),
    ("parameters", .arr (script.parameters.map fun name => .obj [("name", .str name)])),
    ("statements", .arr (script.statements.map (·.toJson)))]

def Script.read? (j : Json) : Option Script := do
  let statements ← (← (← j.get? "statements").items?).mapM Script.Statement.read?
  if statements.isEmpty then none
  return {
    name := ← (← j.get? "name").text?
    stores := ← (← (j.getD "stores" (.arr [])).items?).mapM Script.Store.read?
    parameters := ← (← (j.getD "parameters" (.arr [])).items?).mapM fun p => do (← p.get? "name").text?
    statements }

end StreamBot
