import StreamBot.Proofs.Bot.Reach

/-! # The dictionary in memory and its table

Words are changed in memory first and then in their table.  In memory all letters are put into lower case to find a word,
while the table ignores case for ASCII letters only.  Where that is no difference (`Findable`), each command changes both
alike, so that they stay the same over any commands (`mirrored_afterCommands`); elsewhere they do not (`not_mirrored_umlaut`).
-/

namespace StreamBot.Database

open List Text Chat.Dictionary

variable {db : Database} {rows fewer : List DictionaryEntry} {e other : DictionaryEntry} {word : String}

/-- The words are different without regard to case, and the table finds each by itself. -/
structure Findable (rows : List DictionaryEntry) : Prop where
  apart : (rows.map fun e => lower e.word).Nodup
  found : ∀ e ∈ rows, sameName e.word e.word

theorem Findable.sublist (h : Findable rows) (hsub : fewer.Sublist rows) : Findable fewer :=
  ⟨h.apart.sublist (hsub.map _), fun e he => h.found e (hsub.mem he)⟩

theorem Findable.eq_of_lower (h : Findable rows) (he : e ∈ rows) (hother : other ∈ rows)
    (hlower : lower e.word = lower other.word) : e = other :=
  inj_on_of_nodup_map h.apart he hother hlower

/-- The table finds the row that has the word in memory. -/
theorem Findable.only?_run (h : Findable rows) (he : e ∈ rows) (hword : lower e.word = lower word) :
    only? (fun row => sameName row.word word) rows db = .ok (some e, db) := by
  have hsame : sameName e.word word := by
    rw [sameName, ← hword]
    exact h.found e he
  rw [Database.only?_run (Bot.length_filter_sameName h.apart)]
  cases hfind : rows.find? fun row => sameName row.word word with
  | none => exact absurd hsame (find?_eq_none.1 hfind e he)
  | some row =>
    have hrow := find?_some hfind
    rw [h.eq_of_lower (mem_of_find?_eq_some hfind) he ((lower_eq_of_sameName hrow).trans hword.symm)]

theorem Findable.explained (h : Findable rows) (fits : DictionaryEntry → Bool) (explanation : String) :
    Findable (change fits (fun row => { row with explanation }) rows) := by
  have hword (row : DictionaryEntry) : (if fits row then { row with explanation } else row).word = row.word := by
    split <;> rfl
  refine ⟨?_, forall_mem_map.2 fun row hrow => ?_⟩
  · simpa [change, Function.comp_def, hword] using h.apart
  · rw [hword]
    exact h.found row hrow

theorem Findable.explainAnew_eq (h : Findable rows)
    (hfind : rows.find? (fun e => sameWord e.word word) = some e) (explanation : String) :
    explainAnew word explanation rows =
      change (·.word == e.word) (fun row => { row with explanation }) rows := by
  induction rows with
  | nil => rfl
  | cons row rows ih =>
    rw [explainAnew, change, map_cons]
    by_cases hrow : sameWord row.word word
    · obtain rfl : row = e := by simpa [hrow] using hfind
      have hothers (other : DictionaryEntry) (hother : other ∈ rows) : ¬(other.word == row.word) := by
        intro heq
        have hmem : lower other.word ∈ rows.map fun e => lower e.word := mem_map_of_mem hother
        rw [beq_iff_eq.1 heq] at hmem
        exact (nodup_cons.1 h.apart).1 hmem
      rw [if_pos hrow, if_pos (beq_self_eq_true _), map_congr_left fun other hother => if_neg (hothers other hother), map_id']
    · replace hfind : rows.find? (fun e => sameWord e.word word) = some e := by
        simpa [hrow] using hfind
      have hsame := find?_some hfind
      have hne : ¬(row.word == e.word) := fun heq => hrow (beq_iff_eq.1 heq ▸ hsame)
      rw [if_neg hrow, if_neg hne, ih (h.sublist (sublist_cons_self _ _)) hfind]
      rfl

end StreamBot.Database

namespace StreamBot.Bot

open List
open Chat (Message)
open Chat.Dictionary (sameWord)
open Database (Operation Findable sameName bind_of_ok)

variable {bot : Bot}

/-- The dictionary in memory is the one in the table, which works and finds every word by itself. -/
structure Mirrored (bot : Bot) : Prop where
  entries : bot.dictionary.entries = bot.database.dictionary
  findable : Findable bot.database.dictionary
  outages : bot.outages = []

/-- The dictionary is still mirrored after a computation, whether it returns or fails. -/
def Mirrors {α : Type} (x : BotM α) : Prop := Along (fun before behind => Mirrored before → Mirrored behind) x

instance : Chained fun before behind : Bot => Mirrored before → Mirrored behind :=
  ⟨fun _ => id, fun hfirst hsecond => hsecond ∘ hfirst⟩

/-- What is written to both is the same in both. -/
theorem Mirrored.write {β : Type} {o : Operation β} {b : β} {words : Chat.Dictionary} (h : Mirrored bot)
    (hwords : Findable words.entries)
    (hrun : o.run bot.database = .ok (b, { bot.database with dictionary := words.entries })) (answer : String) :
    Mirrored ((do set { bot with dictionary := words }; let _ ← perform o; return answer : BotM String) bot).2 := by
  have hperform : perform o { bot with dictionary := words } = (.ok b, { bot with
      dictionary := words
      database := { bot.database with dictionary := words.entries } }) :=
    perform_of_ok (working_of_outages h.outages _) hrun
  rw [run_set_bind, run_bind_of_ok hperform]
  exact ⟨rfl, hwords, h.outages⟩

theorem mirrors_addWord {word : String} (hword : sameName word word) (explanation : String) :
    Mirrors (addWord word explanation) := by
  intro bot h
  rw [addWord, run_get_bind]
  split
  · exact h
  · rename_i hhas
    have hnew : ∀ e ∈ bot.database.dictionary, Text.lower e.word ≠ Text.lower word := by
      rw [← h.entries]
      simpa [Chat.Dictionary.has, sameWord] using hhas
    have hfind : bot.database.dictionary.find? (·.word == word) = none :=
      find?_eq_none.2 fun e he heq => hnew e he (congrArg _ (beq_iff_eq.1 heq))
    have hadd : (bot.dictionary.add word explanation).entries = bot.database.dictionary ++ [⟨word, explanation⟩] := by
      rw [Chat.Dictionary.add, h.entries]
    refine h.write (b := ⟨word, explanation⟩) ?_ ?_ _
    · rw [hadd]
      refine ⟨?_, forall_mem_append.2 ⟨h.findable.found, by simpa using hword⟩⟩
      rw [map_append, nodup_append]
      exact ⟨h.findable.apart, by simp, by simpa using hnew⟩
    · rw [hadd]
      simp [Database.addDictionaryEntry, Operation.run, Database.refuseExisting, hfind]
      rfl

theorem mirrors_updateWord (word explanation : String) : Mirrors (updateWord word explanation) := by
  intro bot h
  rw [updateWord, run_get_bind]
  cases hfind : bot.dictionary.entries.find? fun e => sameWord e.word word with
  | none => exact h
  | some e =>
    rw [h.entries] at hfind ⊢
    have hchange := h.findable.explainAnew_eq hfind explanation
    refine h.write (b := ()) (hchange ▸ h.findable.explained _ _) ?_ _
    rw [hchange]
    exact (bind_of_ok rfl _).trans (bind_of_ok (h.findable.only?_run (mem_of_find?_eq_some hfind) rfl) _)

theorem mirrors_removeWord (message : Message) (argument : String) : Mirrors (removeWord message argument) := by
  intro bot h
  rw [removeWord, run_get_bind]
  split
  · exact h
  · rename_i hany
    obtain ⟨e, he, hword⟩ : ∃ e ∈ bot.dictionary.entries, Text.lower e.word = Text.lower argument := by simpa using hany
    rw [h.entries] at he
    -- The lower case of the argument is its own, because it is that of a word that the table finds.
    have hlower : Text.lower e.word = Text.lower (Text.lower argument) := by
      have hsmall : sameName (Text.lower e.word) e.word := by
        rw [sameName, ← beq_iff_eq.1 (h.findable.found e he)]
        simp [Text.lowerAscii, Function.comp_def]
      rw [← hword, Text.lower_eq_of_sameName hsmall]
    have hsame : (bot.dictionary.remove message.platform (Text.lower argument)).entries =
        bot.database.dictionary.filter (·.word != e.word) := by
      rw [Chat.Dictionary.remove, h.entries]
      refine filter_congr fun row hrow => ?_
      rw [sameWord, ← hlower, Bool.eq_iff_iff]
      simp only [Bool.not_eq_true', beq_eq_false_iff_ne, bne_iff_ne, ne_eq, not_iff_not]
      exact ⟨fun heq => congrArg _ (h.findable.eq_of_lower hrow he heq), congrArg _⟩
    refine h.write (b := ()) (hsame ▸ h.findable.sublist filter_sublist) ?_ _
    rw [hsame]
    exact (bind_of_ok rfl _).trans (bind_of_ok (h.findable.only?_run he hlower) _)

/-- The word that a command adds. -/
def addedWord? : List String → Option String
  | [command, word, _] => if Text.lower command = "add" then some word else none
  | _ => none

theorem mirrors_manageDictionary (message : Message) {arguments : List String}
    (hadded : ∀ word ∈ addedWord? arguments, sameName word word) : Mirrors (manageDictionary message arguments) := by
  rw [manageDictionary.eq_def]
  split
  · split
    · rename_i hfirst
      refine Along.bind (mirrors_addWord (hadded _ ?_) _) fun _ => Along.pure _
      simp [addedWord?, hfirst]
    · exact Along.bind (mirrors_updateWord _ _) fun _ => Along.pure _
    · exact Along.bind (mirrors_removeWord _ _) fun _ => Along.pure _
    · exact Along.pure _
  · exact Along.pure _

/-- The bot after commands for its dictionary, whether they return or fail. -/
def afterCommands (bot : Bot) (commands : List (Message × List String)) : Bot :=
  commands.foldl (fun bot command => (manageDictionary command.1 command.2 bot).2) bot

/-- **The dictionary in memory mirrors its table** after any commands, if the table works, its words are different without
regard to case, and the lower case of its words and of those that are added differs from them in ASCII letters only. -/
theorem mirrored_afterCommands (h : Mirrored bot) (commands : List (Message × List String))
    (hadded : ∀ command ∈ commands, ∀ word ∈ addedWord? command.2, sameName word word) :
    Mirrored (bot.afterCommands commands) := by
  induction commands generalizing bot with
  | nil => exact h
  | cons command commands ih =>
    obtain ⟨hfirst, hrest⟩ := forall_mem_cons.1 hadded
    exact ih (mirrors_manageDictionary command.1 hfirst bot h) hrest

/-- A moderator's commands. -/
def byModerator (commands : List (List String)) : List (Message × List String) :=
  commands.map fun arguments => (⟨"", "mod", .moderator, .twitch, none⟩, arguments)

theorem mirrored_afterCommands_sharp : Mirrored (afterCommands { blank with
      database := { dictionary := [⟨"API", "a surface"⟩, ⟨"ß", "sharp"⟩] }
      dictionary := ⟨[⟨"API", "a surface"⟩, ⟨"ß", "sharp"⟩], []⟩ }
    (byModerator [["add", "GG", "well played"], ["update", "gg", "good game"], ["update", "ß", "ss"], ["Remove", "Api"]])) :=
  mirrored_afterCommands ⟨rfl, ⟨by decide +kernel, by decide +kernel⟩, rfl⟩ _ (by decide +kernel)

/-- The table does not find a word with a capital letter that is not ASCII, when memory has changed already. -/
theorem not_mirrored_umlaut : let bot := blank.afterCommands (byModerator [["add", "Ä", "a"], ["update", "Ä", "ae"]])
    bot.dictionary.entries ≠ bot.database.dictionary := by
  decide +kernel

end StreamBot.Bot
