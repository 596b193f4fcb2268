/-! # JSON values

Objects keep the order of their fields.  Integers and other numbers are told apart, as they are in the
text of a document.
-/

namespace StreamBot

inductive Json where
  | null
  | bool (b : Bool)
  | int (n : Int)
  | float (x : Float)
  | str (s : String)
  | arr (items : List Json)
  | obj (fields : List (String × Json))
  deriving Inhabited, Repr

namespace Json

/-- The value of a field; of several with one name, the last. -/
def get? (j : Json) (name : String) : Option Json :=
  match j with
  | obj fields => fields.reverse.lookup name
  | _ => none

def getD (j : Json) (name : String) (default : Json := null) : Json :=
  (j.get? name).getD default

def text? : Json → Option String
  | str s => some s
  | _ => none

def bool? : Json → Option Bool
  | bool b => some b
  | _ => none

def int? : Json → Option Int
  | int n => some n
  | _ => none

def number? : Json → Option Float
  | int n => some (Float.ofInt n)
  | float x => some x
  | _ => none

def items? : Json → Option (List Json)
  | arr items => some items
  | _ => none

def fields? : Json → Option (List (String × Json))
  | obj fields => some fields
  | _ => none

def ofText? : Option String → Json
  | some s => str s
  | none => null

mutual

def depth : Json → Nat
  | arr items => 1 + depthOfItems items
  | obj fields => 1 + depthOfFields fields
  | _ => 1

def depthOfItems : List Json → Nat
  | [] => 0
  | j :: rest => max j.depth (depthOfItems rest)

def depthOfFields : List (String × Json) → Nat
  | [] => 0
  | (_, j) :: rest => max j.depth (depthOfFields rest)

end

def texts? (j : Json) : Option (List String) := do (← j.items?).mapM text?

end Json
end StreamBot

/-! ## Fields of an object

A field that is missing or of another kind than expected has a default value.
-/

namespace StreamBot.Json

def textAt? (j : Json) (name : String) : Option String := (j.get? name).bind text?

def textAt (j : Json) (name : String) : String := (j.textAt? name).getD ""

def intAt (j : Json) (name : String) : Int := (j.getD name).int?.getD 0

def boolAt (j : Json) (name : String) : Bool := (j.getD name).bool?.getD false

def numberAt (j : Json) (name : String) : Float := (j.getD name).number?.getD 0.0

def itemsAt (j : Json) (name : String) : List Json := (j.getD name).items?.getD []

def textsAt (j : Json) (name : String) : List String :=
  (j.itemsAt name).map fun s => s.text?.getD ""

def fieldsAt (j : Json) (name : String) : List (String × Json) := (j.getD name).fields?.getD []

def ofTexts (texts : List String) : Json := .arr (texts.map .str)

def ofList {α : Type} (f : α → Json) (xs : List α) : Json := .arr (xs.map f)

def ofOption {α : Type} (f : α → Json) (x : Option α) : Json := (x.map f).getD .null

end StreamBot.Json
