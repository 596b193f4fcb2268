import StreamBot.Script.Execution

/-! # Scripts that call each other

A library holds scripts by their names, each with the values of its stores.
-/

namespace StreamBot.Script

structure Entry where
  script : Script
  stores : Dict StoreKey Value

abbrev Library := Dict String Entry

namespace Library

def keeper (name : String) : Keeper Library where
  read keys := do
    match Dict.get? (← get) name with
    | none => return []
    | some entry => return entry.stores.filter fun (key, _) => keys.contains key
  write values := do
    modify fun (library : Library) =>
      match Dict.get? library name with
      | none => library
      | some entry =>
        let stores := values.foldl (fun d (key, v) => Dict.set d key v) entry.stores
        Dict.set library name { entry with stores }

def call (h : Host Library) (name : String) (arguments : List String) : Act Library String := do
  match Dict.get? (← get) name with
  | none => throw (.scriptMissing name)
  | some entry =>
    match ← entry.script.execute h (keeper name) arguments with
    | some output => return output
    | none => throw (.scriptWithoutOutput name)

def host (world : World) : Host Library := hostOf world (pure ()) call

def execute (world : World) (entry : Entry) (arguments : List String) : Act Library (Option String) :=
  entry.script.execute (host world) (keeper entry.script.name) arguments

/-- Adds a script with the first values of its stores, in the place of one of the same name. -/
def add (world : World) (script : Script) : Act Library Entry := do
  let stores ← initialStores (host world) script.name [] script.stores
  let entry : Entry := ⟨script, stores⟩
  modify fun library => Dict.set library script.name entry
  return entry

end Library
end StreamBot.Script
