import StreamBot.Chat.Command
import StreamBot.Proofs.Text.Trimming

/-! # Arguments in quotes

A shell takes an argument as it is when it stands between single quotes, with each single quote in it between double quotes
(`Words.quote`).  Main statement: a command that is called with its arguments written like that gets them unchanged
(`ofMessage?_quoted`).
-/

namespace StreamBot.Text

open List

variable {cs text rest : List Char} {texts : List (List Char)}

/-! ### Texts without blanks around them -/

/-- The text has a first and a last character, which are not blank. -/
structure Trimmed (cs : List Char) : Prop where
  first : ∃ c rest, cs = c :: rest ∧ isBlank c = false
  last : ∃ front c, cs = front ++ [c] ∧ isBlank c = false

theorem Trimmed.trim_eq (h : Trimmed cs) : trim cs = cs := by
  obtain ⟨c, rest, hcs, hfirst⟩ := h.first
  obtain ⟨front, d, hcs', hlast⟩ := h.last
  exact Ends.stripped_eq ⟨by simp [hcs, hfirst], by simp [hcs', hlast]⟩

theorem trimmed_of_forall (hne : cs ≠ []) (h : ∀ c ∈ cs, isBlank c = false) : Trimmed cs where
  first := ⟨cs.head hne, cs.tail, (cons_head_tail hne).symm, h _ (head_mem hne)⟩
  last := ⟨cs.dropLast, cs.getLast hne, (dropLast_concat_getLast hne).symm, h _ (getLast_mem hne)⟩

theorem Trimmed.glue (h : Trimmed text) (hs : ∀ t ∈ texts, Trimmed t) : Trimmed (glue [' '] (text :: texts)) := by
  induction texts generalizing text with
  | nil => exact h
  | cons next texts ih =>
    obtain ⟨front, d, hrest, hlast⟩ := (ih (hs _ mem_cons_self) fun t ht => hs t (mem_cons_of_mem _ ht)).last
    obtain ⟨c, rest, rfl, hfirst⟩ := h.first
    refine ⟨⟨c, _, rfl, hfirst⟩, c :: rest ++ [' '] ++ front, d, ?_, hlast⟩
    rw [Text.glue, hrest, append_assoc _ front]
    exact nofun

namespace Words

/-! ### Words as they are written -/

/-- The characters that never need quotes. -/
def safe : List Char := "ABCDEFGHIJKLMNOPQRSTUVWXYZabcdefghijklmnopqrstuvwxyz0123456789_@%+=:,./-".toList

/-- An argument as it is written for a shell. -/
def quote (cs : List Char) : List Char :=
  if !cs.isEmpty && cs.all safe.contains then cs
  else '\x27' :: (cs.flatMap fun c => if c = '\x27' then "'\"'\"'".toList else [c]) ++ ['\x27']

/-- A character that means nothing to a shell. -/
def IsPlain (c : Char) : Prop := isDivider c = false ∧ c ≠ '\x5c' ∧ c ≠ '\x27' ∧ c ≠ '"'

/-- A text is read as a word, whatever follows it. -/
def Spells (text cs : List Char) : Prop :=
  ∀ rest, read .plain none (text ++ rest) = read .plain (some cs.reverse) rest

theorem isDivider_of_not_isBlank {c : Char} (h : isBlank c = false) : isDivider c = false := by
  rw [← Bool.not_eq_true] at h ⊢
  refine mt (fun hdivider => ?_) h
  simp only [isDivider, Bool.or_eq_true, beq_iff_eq] at hdivider
  rcases hdivider with ((rfl | rfl) | rfl) | rfl
  all_goals decide +kernel

theorem read_plain {c : Char} {word : Option (List Char)} (h : IsPlain c) :
    read .plain word (c :: rest) = read .plain (some (c :: word.getD [])) rest := by
  obtain ⟨hdivider, hescape, hsingle, hdouble⟩ := h
  simp [read, *]

theorem read_plains (h : ∀ c ∈ cs, IsPlain c) (soFar : List Char) :
    read .plain (some soFar) (cs ++ rest) = read .plain (some (cs.reverse ++ soFar)) rest := by
  induction cs generalizing soFar with
  | nil => rfl
  | cons c cs ih =>
    rw [cons_append, read_plain (h c mem_cons_self), ih fun c hc => h c (mem_cons_of_mem _ hc)]
    simp

theorem spells_plain (hne : cs ≠ []) (h : ∀ c ∈ cs, IsPlain c) : Spells cs cs := by
  intro rest
  obtain ⟨c, cs, rfl⟩ := exists_cons_of_ne_nil hne
  rw [cons_append, read_plain (h c mem_cons_self), read_plains fun c hc => h c (mem_cons_of_mem _ hc)]
  simp

theorem read_quoted (cs soFar : List Char) : read .single (some soFar)
      ((cs.flatMap fun c => if c = '\x27' then "'\"'\"'".toList else [c]) ++ '\x27' :: rest) =
        read .plain (some (cs.reverse ++ soFar)) rest := by
  induction cs generalizing soFar with
  | nil => simp [read]
  | cons c cs ih =>
    rw [flatMap_cons, append_assoc]
    by_cases hc : c = '\x27'
    · -- the quote is closed, and opened again behind a quote in double quotes
      have hquote (more : List Char) : read .single (some soFar) ("'\"'\"'".toList ++ more) =
          read .single (some ('\x27' :: soFar)) more := by
        simp [read, isDivider]
      rw [hc, if_pos rfl, hquote, ih]
      simp
    · rw [if_neg hc, singleton_append, read, if_neg hc, ih]
      simp

theorem isPlain_of_mem_safe : ∀ c ∈ safe, isBlank c = false ∧ IsPlain c := by
  have hall : (safe.all fun c => !isBlank c && !isDivider c && c != '\x5c' && c != '\x27' && c != '"') := by
    decide +kernel
  simpa [IsPlain, and_assoc] using hall

theorem spells_quote (cs : List Char) : Spells (quote cs) cs := by
  rw [quote]
  split
  case isTrue h =>
    simp only [Bool.and_eq_true, Bool.not_eq_true', isEmpty_eq_false_iff, all_eq_true, contains_iff_mem] at h
    exact spells_plain h.1 fun c hc => (isPlain_of_mem_safe c (h.2 c hc)).2
  case isFalse =>
    intro rest
    rw [append_assoc, ← append_nil cs.reverse, ← read_quoted]
    rfl

theorem read_glue (h : Spells text cs) (words : List (List Char)) :
    read .plain none (glue [' '] (text :: words.map quote)) = some (cs :: words) := by
  induction words generalizing text cs with
  | nil =>
    have hend := h []
    rw [append_nil] at hend
    rw [map_nil, glue, hend]
    simp [read]
  | cons word words ih =>
    rw [map_cons, glue, append_assoc, h, singleton_append, read, ih (spells_quote word)]
    · simp [isDivider]
    · exact nofun

theorem trimmed_quote (cs : List Char) : Trimmed (quote cs) := by
  rw [quote]
  split
  case isTrue h =>
    simp only [Bool.and_eq_true, Bool.not_eq_true', isEmpty_eq_false_iff, all_eq_true, contains_iff_mem] at h
    exact trimmed_of_forall h.1 fun c hc => (isPlain_of_mem_safe c (h.2 c hc)).1
  case isFalse => exact ⟨⟨_, _, rfl, by decide⟩, _, _, rfl, by decide⟩

end Words
end StreamBot.Text

namespace StreamBot.Chat

open List Text Words

theorem ofMessage?_eq {message name : String} {words : List (List Char)} (htrimmed : Trimmed message.toList)
    (hmark : message.toList.head? = some '!') (hname : Trimmed name.toList)
    (hwords : read .plain none message.toList = some (('!' :: name.toList) :: words)) :
    Command.ofMessage? message = some ⟨name, words.map String.ofList⟩ := by
  have hstrip : strip message = message := by rw [strip, htrimmed.trim_eq, String.ofList_toList]
  have hstart : startsWith message "!" := by
    obtain ⟨rest, hrest⟩ := head?_eq_some_iff.1 hmark
    simp [startsWith, hrest]
  have hdrop : strip (dropPrefix ("!" ++ name) "!") = name := by
    have hlength : "!".length = 1 := rfl
    simp [dropPrefix, startsWith, strip, hlength, hname.trim_eq]
  have hne : name ≠ "" := by
    rintro rfl
    obtain ⟨c, rest, hnil, -⟩ := hname.first
    cases hnil
  rw [Command.ofMessage?]
  rw [hstrip, hstart, ofText, hwords]
  simp [hdrop, hne]

/-- A command whose name has no blanks, quotes and backslashes gets the arguments that are written for a shell. -/
theorem ofMessage?_quoted (name : String) (arguments : List String) (hname : name ≠ "")
    (hplain : ∀ c ∈ name.toList, isBlank c = false ∧ c ≠ '\x27' ∧ c ≠ '"' ∧ c ≠ '\x5c') :
    Command.ofMessage? (Text.join " " (("!" ++ name) :: arguments.map fun argument =>
      String.ofList (quote argument.toList))) = some ⟨name, arguments⟩ := by
  have hmark : ∀ c ∈ '!' :: name.toList, isBlank c = false ∧ IsPlain c := by
    refine forall_mem_cons.2 ⟨⟨by decide +kernel, by decide, by decide, by decide, by decide⟩, fun c hc => ?_⟩
    obtain ⟨hblank, hsingle, hdouble, hescape⟩ := hplain c hc
    exact ⟨hblank, isDivider_of_not_isBlank hblank, hescape, hsingle, hdouble⟩
  have htext : (Text.join " " (("!" ++ name) :: arguments.map fun argument =>
      String.ofList (quote argument.toList))).toList =
        glue [' '] (('!' :: name.toList) :: (arguments.map String.toList).map quote) := by
    simp [Text.join, Function.comp_def]
  have hwords := read_glue (spells_plain (cons_ne_nil _ _) fun c hc => (hmark c hc).2) (arguments.map String.toList)
  have htrimmed : Trimmed (glue [' '] (('!' :: name.toList) :: (arguments.map String.toList).map quote)) :=
    (trimmed_of_forall (cons_ne_nil _ _) fun c hc => (hmark c hc).1).glue (by simp [trimmed_quote])
  rw [← htext] at hwords htrimmed
  have hcommand := ofMessage?_eq htrimmed ?_ (trimmed_of_forall ?_ fun c hc => (hplain c hc).1) hwords
  · simpa [Function.comp_def] using hcommand
  · rw [htext]
    cases arguments with
    | nil => rfl
    | cons argument rest => rfl
  · simpa using hname

/-- An empty argument, a quote, a line end and what would begin a comment. -/
theorem ofMessage?_quoted_say :
    Command.ofMessage? "!say '' 'it'\"'\"'s\n#' a/b" = some ⟨"say", ["", "it's\n#", "a/b"]⟩ :=
  ofMessage?_quoted "say" ["", "it's\n#", "a/b"] (by decide) (by simp; decide +kernel)

end StreamBot.Chat
