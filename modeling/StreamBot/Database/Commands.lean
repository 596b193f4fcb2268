import StreamBot.Database.Operation

/-! # Stored commands

Commands with fixed responses, with parameters, on the soundboard, and scripts.
-/

namespace StreamBot.Database

/-! ### Commands with fixed responses -/

def addStaticCommand (name response : String) : Operation StaticCommand where
  name := "add_static_command"
  action := do
    refuseExisting (.staticCommand name) ((← get).staticCommands.find? (·.name == name))
    let row : StaticCommand := ⟨name, response⟩
    modify fun db => { db with staticCommands := db.staticCommands ++ [row] }
    return row

def withoutStatic (name : String) (db : Database) : Database :=
  { db with staticCommands := db.staticCommands.filter (·.name != name) }

def removeStaticCommand (name : String) : Operation Unit where
  name := "remove_static_command"
  action := do
    let _ ← requireFound (.staticCommand name) ((← get).staticCommands.find? (·.name == name))
    modify (withoutStatic name)

def getStaticCommands : Operation (List StaticCommand) where
  name := "get_static_commands"
  action := return (← get).staticCommands

/-! ### Commands with parameters -/

/-- The names of parameters without blanks around them, each once. -/
def parameterNames (names : List String) : List String :=
  ((names.map Text.strip).filter (!·.isEmpty)).eraseDups

def addParameterizedCommand (name response : String) (parameters : List String) :
    Operation ParameterizedCommand where
  name := "add_parameterized_command"
  action := do
    refuseExisting (.parameterizedCommand name)
      ((← get).parameterizedCommands.find? (·.name == name))
    let row : ParameterizedCommand := ⟨name, response⟩
    modify fun db => { db with
      parameterizedCommands := db.parameterizedCommands ++ [row]
      parameters := db.parameters ++ (parameterNames parameters).map fun p => ⟨name, p⟩ }
    return row

def withoutParameterized (name : String) (db : Database) : Database := { db with
  parameterizedCommands := db.parameterizedCommands.filter (·.name != name)
  parameters := db.parameters.filter (·.command != name) }

def removeParameterizedCommand (name : String) : Operation Unit where
  name := "remove_parameterized_command"
  action := do
    let _ ← requireFound (.parameterizedCommand name)
      ((← get).parameterizedCommands.find? (·.name == name))
    modify (withoutParameterized name)

/-- The parameters of a command, in the order of code points. -/
def parametersOf (db : Database) (command : String) : List String :=
  ((db.parameters.filter (·.command == command)).map (·.name)).mergeSort (· ≤ ·)

def getParameterizedCommands : Operation (List (ParameterizedCommand × List String)) where
  name := "get_parameterized_commands"
  action := do
    let db ← get
    return db.parameterizedCommands.map fun row => (row, parametersOf db row.name)

/-! ### The soundboard -/

def addSoundboardCommand (name filename : String) (uploader : Uploader) :
    Operation SoundboardCommand where
  name := "add_soundboard_command"
  action := do
    refuseExisting (.soundboardCommand name) ((← get).soundboard.find? (·.name == name))
    let row : SoundboardCommand := { name, filename, uploader }
    modify fun db => { db with soundboard := db.soundboard ++ [row] }
    return row

/-- The tables without a command on the soundboard; no raid plays it any more. -/
def withoutSoundboard (name : String) (db : Database) : Database := { db with
  soundboard := db.soundboard.filter (·.name != name)
  raidActions := change (·.clip == some name) (fun row => { row with clip := none }) db.raidActions }

def removeSoundboardCommand (name : String) : Operation Unit where
  name := "remove_soundboard_command"
  action := do
    let _ ← requireFound (.soundboardCommand name) ((← get).soundboard.find? (·.name == name))
    modify (withoutSoundboard name)

def getSoundboardCommands : Operation (List SoundboardCommand) where
  name := "get_soundboard_commands"
  action := return (← get).soundboard

/-- The tables with a command on the soundboard renamed, also where raids play it. -/
def renamedSoundboard (old new : String) (db : Database) : Database := { db with
  soundboard := change (·.name == old) (fun row => { row with name := new }) db.soundboard
  raidActions :=
    change (·.clip == some old) (fun row => { row with clip := some new }) db.raidActions }

def updateSoundboardCommandName (old new : String) : Operation Unit where
  name := "update_soundboard_command_name"
  action := do
    let db ← get
    let taken ← only? (fun row => sameName row.name new) db.soundboard
    if (taken.filter (·.name != old)).isSome then
      throw (.alreadyExists (.soundboardCommand new))
    let _ ← requireFound (.soundboardCommand old) (db.soundboard.find? (·.name == old))
    if new != old && db.soundboard.any (·.name == new) then throw .constraint
    modify (renamedSoundboard old new)

def updateSoundboardCommandVolume (name : String) (volume : Float) : Operation Unit where
  name := "update_soundboard_command_volume"
  action := do
    if volume < 0.0 || 1.0 < volume then throw .volumeRange
    let row ← only? (fun row => sameName row.name name) (← get).soundboard
    let row ← requireFound (.soundboardCommand name) row
    if volume.isNaN then throw .constraint
    modify fun db => { db with
      soundboard := change (·.name == row.name) (fun row => { row with volume }) db.soundboard }

/-! ### Scripts -/

structure NewStore where
  name : String
  definitionJson : String
  valueJson : String
  deriving Repr, DecidableEq

def addScript (command sourceCode json : String) (stores : List NewStore) :
    Operation StoredScript where
  name := "add_script"
  action := do
    refuseExisting (.script command) ((← get).scripts.find? (·.command == command))
    let names := stores.map (·.name)
    if names.eraseDups != names then throw .constraint
    let row : StoredScript := ⟨command, sourceCode, json⟩
    modify fun db => { db with
      scripts := db.scripts ++ [row]
      scriptStores := db.scriptStores ++
        stores.map fun s => ⟨command, s.name, s.definitionJson, s.valueJson⟩ }
    return row

def getScripts : Operation (List StoredScript) where
  name := "get_scripts"
  action := return (← get).scripts

def getScript (command : String) : Operation (Option StoredScript) where
  name := "get_script"
  action := return (← get).scripts.find? (·.command == command)

def withoutScript (command : String) (db : Database) : Database := { db with
  scripts := db.scripts.filter (·.command != command)
  scriptStores := db.scriptStores.filter (·.script != command) }

def removeScript (command : String) : Operation Bool where
  name := "remove_script"
  action := do
    match (← get).scripts.find? (·.command == command) with
    | none => return false
    | some _ =>
      modify (withoutScript command)
      return true

def storeOf (db : Database) (script store : String) : Option ScriptStore :=
  db.scriptStores.find? fun row => row.script == script && row.name == store

def getScriptStore (script store : String) : Operation (Option ScriptStore) where
  name := "get_script_store"
  action := return storeOf (← get) script store

def updateScriptStoreValue (script store valueJson : String) : Operation Unit where
  name := "update_script_store_value"
  action := do
    let _ ← requireFound (.scriptStore script store) (storeOf (← get) script store)
    modify fun db => { db with
      scriptStores := change (fun row => row.script == script && row.name == store)
        (fun row => { row with valueJson }) db.scriptStores }

/-! ### All kinds -/

def removeCommandCaseInsensitive (name : String) : Operation Bool where
  name := "remove_command_case_insensitive"
  action := do
    let db ← get
    if let some row ← only? (fun row => sameName row.name name) db.staticCommands then
      modify (withoutStatic row.name)
      return true
    if let some row ← only? (fun row => sameName row.name name) db.parameterizedCommands then
      modify (withoutParameterized row.name)
      return true
    if let some row ← only? (fun row => sameName row.name name) db.soundboard then
      modify (withoutSoundboard row.name)
      return true
    if let some row ← only? (fun row => sameName row.command name) db.scripts then
      modify (withoutScript row.command)
      return true
    return false

end StreamBot.Database
