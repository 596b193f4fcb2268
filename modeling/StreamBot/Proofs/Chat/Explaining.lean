import StreamBot.Chat.Dictionary
import StreamBot.Proofs.Dict
import StreamBot.Proofs.Text.Trimming

/-! # When words are explained

A dictionary remembers when it last explained a word on a platform.  What has happened to it is a list of acts, the latest
first (`Act`), and what it remembers can be read off this list (`get?_lastUses`): the last explanation that was shown on the
platform, unless the word was removed there since.  So words wait for their turn, on each platform by itself, and a message
has at most four responses (`explain_paced`).

A message that is nothing but a word mentions this word only if the word begins and ends with a letter, a numeral or an
underscore, because there has to be a word boundary on either side of it (`mentionedFrom_self`).  Where two blanks of the word
become one before the word is looked for, the message is shorter than the word and does not mention it
(`mentionedFrom_of_length_lt`).  `explain_word_alone` says whether a word is explained when it is all that is said.
-/

namespace StreamBot.Dict

variable {κ α : Type} [BEq κ] [LawfulBEq κ]

theorem get?_erase_self (d : Dict κ α) (k : κ) : get? (erase d k) k = none := by
  refine List.lookup_eq_none_iff.2 fun p hp => ?_
  have hne : (!p.1 == k) := (List.mem_filter.1 hp).2
  exact bne_iff_ne.2 fun hk => by simp [hk] at hne

theorem get?_erase_of_ne {k k' : κ} (d : Dict κ α) (h : k' ≠ k) : get? (erase d k) k' = get? d k' := by
  induction d with
  | nil => rfl
  | cons p d ih =>
    by_cases hp : p.1 = k
    · have hskip : erase (p :: d) k = erase d k := by simp [erase, hp]
      rw [hskip, ih, get?_cons_of_ne d (hp ▸ h)]
    · have hkeep : erase (p :: d) k = p :: erase d k := by simp [erase, hp]
      rw [hkeep]
      by_cases hk : k' = p.1
      · subst hk
        rw [get?_cons_self, get?_cons_self]
      · rw [get?_cons_of_ne _ hk, get?_cons_of_ne _ hk, ih]

end StreamBot.Dict

namespace StreamBot.Text

open List

variable {cs xs ys : List Char}

/-- The text has no blanks at its ends. -/
def Bare (cs : List Char) : Prop := ∀ c, c ∈ cs.head? ∨ c ∈ cs.getLast? → isBlank c = false

theorem Bare.trim_eq (hcs : Bare cs) (hxs : ∀ c ∈ xs, isBlank c) (hys : ∀ c ∈ ys, isBlank c) :
    trim (xs ++ cs ++ ys) = cs :=
  Ends.stripped ⟨fun c hc => by simp [hcs c (.inl hc)], fun c hc => by simp [hcs c (.inr hc)]⟩ hxs hys

namespace Url

theorem foldr_prepend_eq_or_lt (merge : Char → Char → Option Char) (cs : List Char) :
    cs.foldr (prepend merge) [] = cs ∨ (cs.foldr (prepend merge) []).length < cs.length := by
  induction cs with
  | nil => exact .inl rfl
  | cons c cs ih =>
    rw [foldr_cons]
    cases hcs : cs.foldr (prepend merge) [] with
    | nil =>
      rw [hcs] at ih
      exact ih.imp (congrArg (c :: ·)) Nat.succ_lt_succ
    | cons d rest =>
      rw [hcs] at ih
      rw [prepend]
      cases merge c d with
      | none => exact ih.imp (congrArg (c :: ·)) Nat.succ_lt_succ
      | some e =>
        have hle : (d :: rest).length ≤ cs.length := ih.elim (fun h => h ▸ Nat.le_refl _) Nat.le_of_lt
        exact .inr (Nat.lt_succ_of_le hle)

theorem tight_eq_or_lt (cs : List Char) : tight cs = cs ∨ (tight cs).length < cs.length := by
  have htrim : tight cs <+ (cs.foldr (prepend gap?) []).foldr (prepend lineEnd?) [] := trim_sublist _
  have hlength := htrim.length_le
  rcases foldr_prepend_eq_or_lt lineEnd? (cs.foldr (prepend gap?) []) with hline | hline
  · rw [hline] at htrim hlength
    rcases foldr_prepend_eq_or_lt gap? cs with hgap | hgap
    · rw [hgap] at htrim hlength
      exact (Nat.eq_or_lt_of_le hlength).imp_left htrim.eq_of_length
    · exact .inr (Nat.lt_of_le_of_lt hlength hgap)
  · have hgap : (cs.foldr (prepend gap?) []).length ≤ cs.length :=
      (foldr_prepend_eq_or_lt gap? cs).elim (Nat.le_of_eq <| congrArg List.length ·) Nat.le_of_lt
    exact .inr (Nat.lt_of_le_of_lt hlength (Nat.lt_of_lt_of_le hline hgap))

theorem removeAll_bare (hcs : Bare cs) (hurl : found cs = []) (hxs : ∀ c ∈ xs, isBlank c)
    (hys : ∀ c ∈ ys, isBlank c) : removeAll (String.ofList (xs ++ cs ++ ys)) = String.ofList (tight cs) := by
  rw [removeAll, String.toList_ofList, hcs.trim_eq hxs hys, hurl]
  simp

end Url
end StreamBot.Text

namespace StreamBot.Chat.Dictionary

open List
open Database (DictionaryEntry)

variable {d : Dictionary} {entries : List DictionaryEntry} {p : Platform} {now : Float} {text word : String}

/-- The entries that a text calls for and that are explained. -/
def shown (d : Dictionary) (p : Platform) (now : Float) (text : String) : List DictionaryEntry :=
  if (d.due p now text).length ≤ 4 then d.due p now text else (d.due p now text).take 3

/-- What can happen to a dictionary. -/
inductive Act where
  | explain (platform : Platform) (now : Float) (text : String)
  | add (word explanation : String)
  | update (word explanation : String)
  | remove (platform : Platform) (word : String)

def Act.time? : Act → Option Float
  | .explain _ now _ => some now
  | _ => none

/-- The dictionary that had these entries, after all that has happened to it since, the latest first. -/
def after (entries : List DictionaryEntry) : List Act → Dictionary
  | [] => ⟨entries, []⟩
  | .explain p now text :: past => ((after entries past).explain p now text).1
  | .add word explanation :: past => (after entries past).add word explanation
  | .update word explanation :: past =>
    { after entries past with entries := explainAnew word explanation (after entries past).entries }
  | .remove p word :: past => (after entries past).remove p word

/-- When a word was last explained on a platform, unless it was removed there since. -/
def lastExplained (entries : List DictionaryEntry) (p : Platform) (word : String) : List Act → Option Float
  | [] => none
  | .explain q now text :: past =>
    if q = p ∧ word ∈ ((after entries past).shown q now text).map (·.word) then some now
    else lastExplained entries p word past
  | .remove q v :: past => if q = p ∧ v = word then none else lastExplained entries p word past
  | .add _ _ :: past | .update _ _ :: past => lastExplained entries p word past

theorem explain_eq (d : Dictionary) (p : Platform) (now : Float) (text : String) :
    d.explain p now text = (d.use p now (d.shown p now text), (d.shown p now text).map explanation ++
      if (d.due p now text).length ≤ 4 then [] else [note 3 (d.due p now text).length]) := by
  unfold shown
  by_cases h : (d.due p now text).length ≤ 4
  · have hfew : ¬maxResponses < (d.due p now text).length := Nat.not_lt.2 h
    rw [explain, if_neg hfew, if_pos h, if_pos h, append_nil]
  · have hmany : maxResponses < (d.due p now text).length := Nat.lt_of_not_le h
    rw [explain, if_pos hmany, if_neg h, if_neg h]
    rfl

/-- Only what is shown is remembered, and only for the platform where it is shown. -/
theorem get?_use (d : Dictionary) (p q : Platform) (now : Float) (shown : List DictionaryEntry) (word : String) :
    Dict.get? (d.use p now shown).lastUses (q, word) =
      if p = q ∧ word ∈ shown.map (·.word) then some now else Dict.get? d.lastUses (q, word) := by
  induction shown generalizing d with
  | nil => simp [use]
  | cons e shown ih =>
    have hstep : d.use p now (e :: shown) =
        use { d with lastUses := Dict.set d.lastUses (p, e.word) now } p now shown := rfl
    rw [hstep, ih]
    by_cases hkey : (q, word) = (p, e.word)
    · obtain ⟨rfl, rfl⟩ := Prod.mk.inj hkey
      simp
    · rw [Dict.get?_set_of_ne _ _ hkey]
      by_cases hq : p = q
      · have hword : word ≠ e.word := fun hw => hkey (by rw [hq, hw])
        simp [hq, hword]
      · simp [hq]

/-- **What a dictionary remembers is what its history says.** -/
theorem get?_lastUses (entries : List DictionaryEntry) (p : Platform) (word : String) (past : List Act) :
    Dict.get? (after entries past).lastUses (p, word) = lastExplained entries p word past := by
  induction past with
  | nil => rfl
  | cons act past ih =>
    cases act with
    | explain q now text => rw [after, explain_eq, get?_use, lastExplained, ih]
    | add | update => exact ih
    | remove q v =>
      rw [after, remove, lastExplained]
      by_cases hkey : (p, word) = (q, v)
      · obtain ⟨rfl, rfl⟩ := Prod.mk.inj hkey
        rw [Dict.get?_erase_self, if_pos ⟨rfl, rfl⟩]
      · rw [Dict.get?_erase_of_ne _ hkey, ih, if_neg fun h => hkey (by rw [h.1, h.2])]

theorem isCoolingDown_after (entries : List DictionaryEntry) (past : List Act) (p : Platform) (now : Float) (word : String) :
    (after entries past).isCoolingDown p now word =
      (lastExplained entries p word past).any fun last => decide (now - last < cooldown) := by
  rw [isCoolingDown, get?_lastUses]
  cases lastExplained entries p word past <;> rfl

/-- A word that was shown and not removed since was last explained at that time, or at a later one. -/
theorem lastExplained_append {between before : List Act} {last : Float}
    (hshown : word ∈ ((after entries before).shown p last text).map (·.word)) (hkept : .remove p word ∉ between) :
    ∃ s, lastExplained entries p word (between ++ .explain p last text :: before) = some s ∧
      (s = last ∨ ∃ t, .explain p s t ∈ between) := by
  induction between with
  | nil => exact ⟨last, if_pos ⟨rfl, hshown⟩, .inl rfl⟩
  | cons act between ih =>
    obtain ⟨hact, hkept⟩ := not_or.1 (mt mem_cons.2 hkept)
    obtain ⟨s, hs, hwhen⟩ := ih hkept
    have hlater : s = last ∨ ∃ t, .explain p s t ∈ act :: between :=
      hwhen.imp_right fun ⟨t, ht⟩ => ⟨t, mem_cons_of_mem _ ht⟩
    cases act with
    | explain q now t =>
      rw [cons_append, lastExplained]
      split
      · rename_i h
        exact ⟨now, rfl, .inr ⟨t, h.1 ▸ mem_cons_self⟩⟩
      · exact ⟨s, hs, hlater⟩
    | add | update => exact ⟨s, hs, hlater⟩
    | remove q v =>
      refine ⟨s, ?_, hlater⟩
      rw [cons_append, lastExplained, if_neg fun h => hact (by rw [h.1, h.2]), hs]

theorem not_isCoolingDown_of_shown (h : word ∈ (d.shown p now text).map (·.word)) : d.isCoolingDown p now word = false := by
  obtain ⟨e, he, rfl⟩ := mem_map.1 h
  have hdue : e ∈ d.due p now text := by
    unfold shown at he
    split at he
    · exact he
    · exact mem_of_mem_take he
  simpa using (Bool.and_eq_true_iff.1 (mem_filter.1 hdue).2).2

/-- **Words are explained in turn.**  Whatever has happened to a dictionary, a text calls for the entries whose words it
mentions and that were not explained on the same platform for less than the cooldown, in their order.  Up to four of them
are all explained; of more, the first three are, and a note says how many there were besides.  If the clock never goes back
and a word is explained twice on a platform without being removed in between, then the cooldown has passed since its last
explanation, which is the first of the two or a later one. -/
theorem explain_paced (entries : List DictionaryEntry) (past : List Act) (p : Platform) (now : Float) (text : String) :
    let d := after entries past
    let due := d.due p now text
    let responses := (d.explain p now text).2
    due = (d.entries.filter fun e => mentioned e.word (Text.Url.removeAll text) &&
      !(lastExplained entries p e.word past).any fun last => decide (now - last < cooldown)) ∧
    responses.length ≤ 4 ∧
    (due.length ≤ 4 → responses = due.map explanation) ∧
    (4 < due.length → responses = (due.take 3).map explanation ++ [note 3 due.length]) ∧
    ∀ between before last earlier word, past = between ++ .explain p last earlier :: before →
      past.Pairwise (fun later act => ∀ t ∈ later.time?, ∀ s ∈ act.time?, s ≤ t) →
      word ∈ ((after entries before).shown p last earlier).map (·.word) → word ∈ (d.shown p now text).map (·.word) →
      (∀ q v, sameWord word v → .remove q v ∉ between) → ∃ s, (s = last ∨ last ≤ s) ∧ ¬now - s < cooldown := by
  intro d due responses
  have hfew (h : due.length ≤ 4) : responses = due.map explanation := by
    simp only [responses, explain_eq, shown]
    rw [if_pos h, if_pos h, append_nil]
  have hmany (h : 4 < due.length) : responses = (due.take 3).map explanation ++ [note 3 due.length] := by
    simp only [responses, explain_eq, shown]
    rw [if_neg (Nat.not_le.2 h), if_neg (Nat.not_le.2 h)]
  refine ⟨?_, ?_, hfew, hmany, ?_⟩
  · simp only [due, d, Dictionary.due, isCoolingDown_after]
  · rcases Nat.lt_or_ge 4 due.length with h | h
    · simpa [hmany h] using Nat.min_le_left 3 due.length
    · simpa [hfew h] using h
  · intro between before last earlier word hpast hclock hfirst hsecond hkept
    subst hpast
    obtain ⟨s, hs, hwhen⟩ := lastExplained_append hfirst (hkept p word (by simp [sameWord]))
    have hcool := not_isCoolingDown_of_shown hsecond
    rw [isCoolingDown_after, hs] at hcool
    refine ⟨s, hwhen.imp_right fun ⟨t, ht⟩ => ?_, by simpa using hcool⟩
    exact (pairwise_append.1 hclock).2.2 _ ht _ mem_cons_self s rfl last rfl

/-- A word that is explained again after a minute, and meanwhile on another platform. -/
theorem explain_paced_respects : ∃ s : Float, (s = 1000.0 ∨ 1000.0 ≤ s) ∧ ¬1060.0 - s < cooldown := by
  refine (explain_paced [⟨"F", "pays respects"⟩] [.explain .discord 1030.0 "F", .explain .twitch 1000.0 "f"] .twitch 1060.0
    "F").2.2.2.2 [.explain .discord 1030.0 "F"] [] 1000.0 "f" "F" rfl ?_ ?_ ?_ ?_
  · decide +kernel
  · decide +kernel
  · decide +kernel
  · simp

/-! ### Words that stand alone -/

open Text (isWordChar)

theorem length_le_of_beginsIgnoringCase {word cs : List Char} (h : Text.beginsIgnoringCase word cs) :
    word.length ≤ cs.length := by
  induction word generalizing cs with
  | nil => exact Nat.zero_le _
  | cons c word ih =>
    cases cs with
    | nil => cases h
    | cons d cs => exact Nat.succ_le_succ (ih (Bool.and_eq_true_iff.1 h).2)

theorem beginsIgnoringCase_self (word : List Char) : Text.beginsIgnoringCase word word := by
  induction word with
  | nil => rfl
  | cons c word ih => simp [Text.beginsIgnoringCase, Text.sameLetter, ih]

theorem isPrefixOf_plural {word cs : List Char} (h : cs.length ≤ word.length) : (word ++ ['s']).isPrefixOf cs = false := by
  refine Bool.eq_false_iff.2 fun hbegins => ?_
  have hle := IsPrefix.length_le ( isPrefixOf_iff_prefix.1 hbegins)
  rw [length_append, length_singleton] at hle
  omega

theorem mentionedAt_of_length_lt {word cs : List Char} (h : cs.length < word.length) (before : Option Char) :
    mentionedAt word before cs = false := by
  have hword : Text.beginsIgnoringCase word cs = false :=
    Bool.eq_false_iff.2 fun hbegins => Nat.not_lt.2 (length_le_of_beginsIgnoringCase hbegins) h
  simp [mentionedAt, hword, isPrefixOf_plural (Nat.le_of_lt h)]

theorem mentionedFrom_of_length_lt {word cs : List Char} (h : cs.length < word.length) (before : Option Char) :
    mentionedFrom word before cs = false := by
  induction cs generalizing before with
  | nil => exact mentionedAt_of_length_lt h before
  | cons c cs ih => rw [mentionedFrom, mentionedAt_of_length_lt h, ih (Nat.lt_of_succ_lt h), Bool.or_self]

/-- A word is mentioned where it stands alone if there are word boundaries around it. -/
theorem mentionedFrom_self (word : List Char) :
    mentionedFrom word none word = (word.head?.any isWordChar && word.getLast?.any isWordChar) := by
  have hplural := isPrefixOf_plural (Nat.le_refl word.length)
  have hat : mentionedAt word none word = (word.head?.any isWordChar && word.getLast?.any isWordChar) := by
    simp [mentionedAt, endsAt, isEdge, beginsIgnoringCase_self, hplural]
  cases word with
  | nil => exact hat
  | cons c word => rw [mentionedFrom, hat, mentionedFrom_of_length_lt (Nat.lt_succ_self _), Bool.or_false]

/-- **Which words are explained when they stand alone.**  A message that consists of the word of an entry, with blanks
around it, and mentions no other word has this entry for its only explanation if the word begins and ends with a word
character and has no gaps, provided it is not cooling down.  No other words are explained. -/
theorem explain_word_alone (d : Dictionary) (p : Platform) (now : Float) (before after : List DictionaryEntry)
    (e : DictionaryEntry) (xs ys : List Char) (hentries : d.entries = before ++ e :: after)
    (hfree : d.isCoolingDown p now e.word = false) (hurl : Text.Url.found e.word.toList = [])
    (hbare : Text.Bare e.word.toList) (hxs : ∀ c ∈ xs, Text.isBlank c = true) (hys : ∀ c ∈ ys, Text.isBlank c = true) :
    let text := String.ofList (xs ++ e.word.toList ++ ys)
    (∀ o ∈ before ++ after, mentioned o.word (Text.Url.removeAll text) = false) → (d.explain p now text).2 =
        if Text.Url.tight e.word.toList = e.word.toList ∧ e.word.toList.head?.any isWordChar ∧
          e.word.toList.getLast?.any isWordChar then [explanation e] else [] := by
  intro text hothers
  have htext : Text.Url.removeAll text = String.ofList (Text.Url.tight e.word.toList) :=
    Text.Url.removeAll_bare hbare hurl hxs hys
  have hdue : d.due p now text = if mentioned e.word (Text.Url.removeAll text) then [e] else [] := by
    have hnone {os : List DictionaryEntry} (hos : ∀ o ∈ os, o ∈ before ++ after) : (os.filter fun o =>
        mentioned o.word (Text.Url.removeAll text) && !d.isCoolingDown p now o.word) = [] := by
      refine filter_eq_nil_iff.2 fun o ho => ?_
      rw [hothers o (hos o ho), Bool.false_and]
      exact Bool.false_ne_true
    rw [due, hentries, filter_append, filter_cons, hnone fun o ho => mem_append_left _ ho,
      hnone fun o ho => mem_append_right _ ho, hfree]
    simp
  have hmentioned : mentioned e.word (Text.Url.removeAll text) = true ↔
      Text.Url.tight e.word.toList = e.word.toList ∧ e.word.toList.head?.any isWordChar ∧
        e.word.toList.getLast?.any isWordChar := by
    rw [htext, mentioned, String.toList_ofList]
    rcases Text.Url.tight_eq_or_lt e.word.toList with htight | hlt
    · rw [htight, mentionedFrom_self]
      simp
    · rw [mentionedFrom_of_length_lt hlt]
      have hne : Text.Url.tight e.word.toList ≠ e.word.toList := fun heq => by
        rw [heq] at hlt
        exact Nat.lt_irrefl _ hlt
      simp [hne]
  rw [explain_eq, shown, hdue]
  by_cases h : mentioned e.word (Text.Url.removeAll text) = true
  · rw [if_pos (hmentioned.1 h)]
    simp [h]
  · rw [if_neg (mt hmentioned.2 h)]
    simp [h]

/-- A word between spaces. -/
theorem explain_word_alone_respects : (explain ⟨[⟨"gg", "good game"⟩, ⟨"F", "pays respects"⟩], []⟩ .twitch 1000.0
    (String.ofList ([' '] ++ "F".toList ++ [' ', ' ']))).2 = [explanation ⟨"F", "pays respects"⟩] := by
  have hspace : Text.isBlank ' ' = true := by decide +kernel
  have hbare : Text.Bare "F".toList := by
    have hblank : Text.isBlank 'F' = false := by decide +kernel
    simpa [Text.Bare] using hblank
  have h := explain_word_alone ⟨[⟨"gg", "good game"⟩, ⟨"F", "pays respects"⟩], []⟩ .twitch 1000.0 [⟨"gg", "good game"⟩] []
    ⟨"F", "pays respects"⟩ [' '] [' ', ' '] rfl rfl (by decide +kernel) hbare (by simpa using hspace)
    (by simpa using hspace) (by decide +kernel)
  rwa [if_pos (by decide +kernel)] at h

/-- A word that ends with another character has no boundary behind it and is not explained. -/
theorem explain_plus_plus :
    Text.Url.found "c++".toList = [] ∧ (explain ⟨[⟨"c++", "a language"⟩], []⟩ .twitch 1000.0 "c++").2 = [] := by
  decide +kernel

end StreamBot.Chat.Dictionary
