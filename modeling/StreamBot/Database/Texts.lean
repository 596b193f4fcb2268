import StreamBot.Database.Operation

/-! # Stored texts

Settings, constants, the dictionary, texts in the language of the chat, broadcasts and fetched sources.
-/

namespace StreamBot.Database

/-! ### Settings -/

def storeConfigurationSetting (kind : SettingKind) (value : String) : Operation Unit where
  name := "store_configuration_setting"
  action := modify fun db => { db with settings := Dict.set db.settings kind value }

def retrieveConfigurationSetting (kind : SettingKind) : Operation (Option String) where
  name := "retrieve_configuration_setting"
  action := return Dict.get? (← get).settings kind

def retrieveConfigurationSettingOrRaise (kind : SettingKind) : Operation String where
  name := "retrieve_configuration_setting_or_raise"
  action := do requireFound (.setting kind) (Dict.get? (← get).settings kind)

/-! ### Broadcasts -/

def addBroadcast (intervalSeconds : Int) (message : String) (aliasCommand : Option String) :
    Operation Broadcast where
  name := "add_broadcast"
  action := do
    let row : Broadcast :=
      ⟨nextId (·.id) (← get).broadcasts, intervalSeconds, message, aliasCommand⟩
    modify fun db => { db with broadcasts := db.broadcasts ++ [row] }
    return row

def removeBroadcast (id : Int) : Operation Unit where
  name := "remove_broadcast"
  action := do
    let _ ← requireFound (.broadcast id) ((← get).broadcasts.find? (·.id == id))
    modify fun db => { db with broadcasts := db.broadcasts.filter (·.id != id) }

def updateBroadcast (id intervalSeconds : Int) (message : String) (aliasCommand : Option String) :
    Operation Unit where
  name := "update_broadcast"
  action := do
    let _ ← requireFound (.broadcastWithId id) ((← get).broadcasts.find? (·.id == id))
    modify fun db => { db with
      broadcasts := change (·.id == id)
        (fun row => { row with intervalSeconds, message, aliasCommand }) db.broadcasts }

def getBroadcasts : Operation (List Broadcast) where
  name := "get_broadcasts"
  action := return (← get).broadcasts

/-! ### Constants -/

def addConstant (name text : String) : Operation Constant where
  name := "add_constant"
  action := do
    refuseExisting (.constant name) ((← get).constants.find? (·.name == name))
    let row : Constant := ⟨name, text⟩
    modify fun db => { db with constants := db.constants ++ [row] }
    return row

def removeConstant (name : String) : Operation Unit where
  name := "remove_constant"
  action := do
    let _ ← requireFound (.constant name) ((← get).constants.find? (·.name == name))
    modify fun db => { db with constants := db.constants.filter (·.name != name) }

def getConstants : Operation (List Constant) where
  name := "get_constants"
  action := return (← get).constants

/-! ### The dictionary -/

def addDictionaryEntry (word explanation : String) : Operation DictionaryEntry where
  name := "add_dictionary_entry"
  action := do
    refuseExisting (.dictionaryEntry word) ((← get).dictionary.find? (·.word == word))
    let row : DictionaryEntry := ⟨word, explanation⟩
    modify fun db => { db with dictionary := db.dictionary ++ [row] }
    return row

def updateDictionaryEntryCaseInsensitive (word explanation : String) : Operation Unit where
  name := "update_dictionary_entry_case_insensitive"
  action := do
    let row ← only? (fun row => sameName row.word word) (← get).dictionary
    let row ← requireFound (.dictionaryEntry word) row
    modify fun db => { db with
      dictionary := change (·.word == row.word) (fun row => { row with explanation }) db.dictionary }

def removeDictionaryEntryCaseInsensitive (word : String) : Operation Unit where
  name := "remove_dictionary_entry_case_insensitive"
  action := do
    let row ← only? (fun row => sameName row.word word) (← get).dictionary
    let row ← requireFound (.dictionaryEntry word) row
    modify fun db => { db with dictionary := db.dictionary.filter (·.word != row.word) }

def getDictionaryEntryCaseInsensitive (word : String) : Operation (Option DictionaryEntry) where
  name := "get_dictionary_entry_case_insensitive"
  action := do only? (fun row => sameName row.word word) (← get).dictionary

def getDictionaryEntries : Operation (List DictionaryEntry) where
  name := "get_dictionary_entries"
  action := return (← get).dictionary

/-! ### Texts in the language of the chat -/

def addTranslation (key : Chat.TranslationKey) (value : String) : Operation Translation where
  name := "add_translation"
  action := do
    refuseExisting (.translation key.text) ((← get).translations.find? (·.key == key))
    let row : Translation := ⟨key, value⟩
    modify fun db => { db with translations := db.translations ++ [row] }
    return row

def removeTranslation (key : Chat.TranslationKey) : Operation Unit where
  name := "remove_translation"
  action := do
    let _ ← requireFound (.translation key.text) ((← get).translations.find? (·.key == key))
    modify fun db => { db with translations := db.translations.filter (·.key != key) }

def getTranslations : Operation (List Translation) where
  name := "get_translations"
  action := return (← get).translations

/-! ### Fetched sources -/

def addOrUpdateCachedSourceCode (url sourceCode : String) : Operation Unit where
  name := "add_or_update_cached_source_code"
  action := modify fun db =>
    if db.cachedSources.any (·.url == url) then
      { db with cachedSources :=
          change (·.url == url) (fun row => { row with sourceCode }) db.cachedSources }
    else { db with cachedSources := db.cachedSources ++ [⟨url, sourceCode⟩] }

def getCachedSourceCode (url : String) : Operation (Option String) where
  name := "get_cached_source_code"
  action := return ((← get).cachedSources.find? (·.url == url)).map (·.sourceCode)

def deleteCachedSourceCode (url : String) : Operation Unit where
  name := "delete_cached_source_code"
  action := do
    let _ ← requireFound (.cachedSource url) ((← get).cachedSources.find? (·.url == url))
    modify fun db => { db with cachedSources := db.cachedSources.filter (·.url != url) }

end StreamBot.Database
