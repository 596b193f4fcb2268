import StreamBot.Script.Evaluation

/-! # Executing scripts

An execution reads all stores of its script at the start and writes all of them back at the end.  One that
fails writes nothing.
-/

namespace StreamBot.Script

variable {σ : Type}

/-- The value of an assignment, whose type must be that of the value it replaces. -/
def assignedValue (h : Host σ) (kind : NameKind) (name : String) (old : Value) (e : Expr) :
    Eval σ Value := do
  let type ← Eval.typeOf e.dataType
  if old.dataType ≠ type then throw (.assignType kind name old.dataType type)
  e.eval h

def Statement.execute (h : Host σ) : Statement → Eval σ (Option String)
  | .print e => do return some (← e.eval h).text
  | .assign (.store name _) e => do
    let f ← get
    let key : StoreKey := ⟨f.owner, name⟩
    match Dict.get? f.stores key with
    | none => throw (.assignStoreMissing name f.owner)
    | some old => do
      let new ← assignedValue h .store name old e
      modify fun f => { f with stores := Dict.set f.stores key new }
      return none
  | .assign (.parameter name) e => do
    match Dict.get? (← get).parameters name with
    | none => throw (.assignParameterMissing name)
    | some old => do
      let new ← assignedValue h .parameter name old e
      modify fun f => { f with parameters := Dict.set f.parameters name new }
      return none
  | .assign (.var name _) e => do
    match Dict.get? (← get).bindings name with
    | none => throw (.assignVariableMissing name)
    | some old => do
      let new ← assignedValue h .var name old e
      Eval.setVariable name new
      return none
  | .define name type e => do
    if Dict.has (← get).bindings name then throw (.alreadyDefined name)
    let actual ← Eval.typeOf e.dataType
    if actual ≠ type then throw (.definitionType name type actual)
    Eval.setVariable name (← e.eval h)
    return none

def appendOutput : Option String → Option String → Option String
  | none, b => b
  | a, none => a
  | some a, some b => some (a ++ b)

def executeAll (h : Host σ) (output : Option String) : List Statement → Eval σ (Option String)
  | [] => return output
  | s :: rest => do
    h.pause
    let more ← s.execute h
    executeAll h (appendOutput output more) rest

end StreamBot.Script

namespace StreamBot

variable {σ : Type}

namespace Script

def storeKeys (script : Script) : List StoreKey := script.stores.map fun s => ⟨script.name, s.name⟩

def bindParameters (names arguments : List String) : Dict String Value :=
  (names.zip arguments).foldl (fun d (name, s) => Dict.set d name (.string s)) []

/-- Executes a script.  Its output is that of its print statements, if there are any. -/
def execute (h : Host σ) (keeper : Keeper σ) (script : Script) (arguments : List String) :
    Act σ (Option String) := do
  if arguments.length ≠ script.parameters.length then
    throw (.argumentCount script.name script.parameters.length arguments.length)
  let stores ← keeper.read script.storeKeys
  let frame : Frame := {
    callStack := [script.name], stores, parameters := bindParameters script.parameters arguments }
  let (output, frame) ← (executeAll h none script.statements).run frame
  keeper.write frame.stores
  return output

/-- Executes a script that is given as source text.  It has no name, and must have an output but neither
stores nor parameters. -/
def executeSource (h : Host σ) (source : String) : Act σ String := do
  match ofSource "" source with
  | .error fault => throw (.codeNotParsed fault)
  | .ok script =>
    if !script.stores.isEmpty then throw .codeHasStores
    if !script.parameters.isEmpty then throw .codeHasParameters
    match ← script.execute h .nothing [] with
    | some output => return output
    | none => throw .codeWithoutOutput

/-- The first values of stores, in order; each may use those before it. -/
def initialStores (h : Host σ) (script : String) (known : Dict StoreKey Value) :
    List Store → Act σ (Dict StoreKey Value)
  | [] => return known
  | s :: rest => do
    let (v, _) ← (s.value.eval h).run { callStack := [script], stores := known }
    initialStores h script (Dict.set known ⟨script, s.name⟩ v) rest

def maxDepth : Nat := 160

/-- The host whose way to call scripts is given for a host that allows one call less. -/
def hostWithin (world : World) (pause : Act σ Unit) (call : Host σ → String → List String → Act σ String) : Nat → Host σ
  | 0 => ⟨world, fun _ _ => throw .tooDeep, fun _ => throw .tooDeep, pause⟩
  | n + 1 =>
    let h := hostWithin world pause call n
    ⟨world, call h, executeSource h, pause⟩

def hostOf (world : World) (pause : Act σ Unit) (call : Host σ → String → List String → Act σ String) : Host σ :=
  hostWithin world pause call maxDepth

end Script
end StreamBot
