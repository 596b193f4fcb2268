import StreamBot.Chat.Handler
import StreamBot.Proofs.Trigger.Language

/-! # Names and the texts that they mean

Whether two names overlap, and which handler a text calls, is found out in two ways.  For names of several texts it is a
question of these texts; how many there are is seen from the parts of a pattern (`Pattern.isVaried_iff`).  Names of one
text are compared as they are written.  Those that are written alike mean the same
(`Pattern.language_eq_of_like`), but not the other way round: a text can be written plainly, character by
character, or with groups and repetitions.  Main statement: `overlap_and_lookup`.
-/

namespace StreamBot.Trigger

open List Language
open Text

variable {cs : List Char}

namespace Pattern

variable {p q : Pattern} {text : List Nat}

/-! ### Patterns of several texts -/

def Varied (p : Pattern) : Prop := ∃ text ∈ p.language, ∃ other ∈ p.language, text ≠ other

section Varieties

variable {L M : Language Nat} {v w : Variety} {least : Nat} {most : Option Nat}

def Variety.Of (L : Language Nat) : Variety → Prop
  | .none => L = 0
  | .one text => L = {text}
  | .several => Set.Nontrivial L

theorem singleton_mul (text text' : List Nat) : ({text} * {text'} : Language Nat) = {text ++ text'} :=
  Set.image2_singleton

theorem singleton_pow (text : List Nat) (k : Nat) : ({text} : Language Nat) ^ k = {(replicate k text).flatten} := by
  induction k with
  | zero => rfl
  | succ k ih => rw [pow_succ', ih, singleton_mul, replicate_succ, flatten_cons]

theorem nontrivial_mul_right (h : Set.Nontrivial L) (hM : Set.Nonempty M) : Set.Nontrivial (L * M) := by
  obtain ⟨a, ha, b, hb, hne⟩ := h
  obtain ⟨m, hm⟩ := hM
  exact ⟨_, append_mem_mul ha hm, _, append_mem_mul hb hm, fun h => hne (append_cancel_right h)⟩

theorem nontrivial_mul_left (hL : Set.Nonempty L) (h : Set.Nontrivial M) : Set.Nontrivial (L * M) := by
  obtain ⟨a, ha, b, hb, hne⟩ := h
  obtain ⟨l, hl⟩ := hL
  exact ⟨_, append_mem_mul hl ha, _, append_mem_mul hl hb, fun h => hne (append_cancel_left h)⟩

theorem Variety.Of.inRow (h : v.Of L) (h' : w.Of M) : (v.inRow w).Of (L * M) := by
  cases v with
  | none => exact (congrArg (· * M) h).trans (zero_mul M)
  | one text =>
    cases w with
    | none => exact (congrArg (L * ·) h').trans (mul_zero L)
    | one text' => exact (congrArg₂ (· * ·) h h').trans (singleton_mul text text')
    | several => exact nontrivial_mul_left (h.symm ▸ Set.singleton_nonempty text) h'
  | several =>
    cases w with
    | none => exact (congrArg (L * ·) h').trans (mul_zero L)
    | one text' => exact nontrivial_mul_right h (h'.symm ▸ Set.singleton_nonempty text')
    | several => exact nontrivial_mul_right h h'.nonempty

theorem Variety.Of.either (h : v.Of L) (h' : w.Of M) : (v.either w).Of (L + M) := by
  cases v with
  | none =>
    have hL : L = 0 := h
    rwa [hL, zero_add]
  | one text =>
    cases w with
    | none =>
      have hM : M = 0 := h'
      rwa [hM, add_zero]
    | one text' =>
      have hL : L = {text} := h
      have hM : M = {text'} := h'
      rw [hL, hM, Variety.either]
      split
      case isTrue heq => exact heq ▸ Set.union_self _
      case isFalse hne => exact ⟨text, .inl rfl, text', .inr rfl, hne⟩
    | several => exact h'.mono Set.subset_union_right
  | several =>
    cases w with
    | none =>
      have hM : M = 0 := h'
      rwa [hM, add_zero]
    | one | several => exact h.mono Set.subset_union_left

theorem Variety.Of.repeated (h : v.Of L) (hbound : ∀ m ∈ most, least ≤ m) :
    (v.repeated least most).Of {text | ∃ k, least ≤ k ∧ (∀ m ∈ most, k ≤ m) ∧ text ∈ L ^ k} := by
  cases v with
  | none =>
    have hL : L = 0 := h
    have hpow {k : Nat} {text : List Nat} : text ∈ L ^ k ↔ k = 0 ∧ text = [] := by
      rw [hL, zero_pow_eq]
      split
      case isTrue hk => simp [hk]
      case isFalse hk => simp [hk]
    rw [Variety.repeated]
    split
    case isTrue hleast =>
      ext text
      constructor
      · rintro ⟨k, -, -, hk⟩
        exact (hpow.1 hk).2
      · rintro rfl
        exact ⟨0, hleast.le, fun m _ => Nat.zero_le m, hpow.2 ⟨rfl, rfl⟩⟩
    case isFalse hleast =>
      ext text
      refine iff_of_false ?_ (notMem_zero text)
      rintro ⟨k, hk, -, htext⟩
      exact hleast (Nat.le_zero.1 ((hpow.1 htext).1 ▸ hk))
  | one text =>
    have hL : L = {text} := h
    have hpow (k : Nat) : L ^ k = {(replicate k text).flatten} := by rw [hL, singleton_pow]
    have hmem (k : Nat) : (replicate k text).flatten ∈ L ^ k := by
      rw [hpow]
      rfl
    rw [Variety.repeated]
    split
    case isTrue hsame =>
      have hone {k : Nat} (hk : least ≤ k) (hmost : ∀ m ∈ most, k ≤ m) :
          (replicate k text).flatten = (replicate least text).flatten := by
        rcases hsame with rfl | hmost'
        · simp
        · rw [Nat.le_antisymm (hmost least hmost') hk]
      ext other
      constructor
      · rintro ⟨k, hk, hmost, hother⟩
        rw [hpow] at hother
        exact hother.trans (hone hk hmost)
      · rintro rfl
        exact ⟨least, le_rfl, hbound, hmem least⟩
    case isFalse hdiffer =>
      obtain ⟨hnil, hmost⟩ := not_or.1 hdiffer
      have hmore : ∀ m ∈ most, least + 1 ≤ m := fun m hm =>
        (hbound m hm).lt_of_ne fun heq => hmost (heq ▸ hm)
      refine ⟨_, ⟨least, le_rfl, hbound, hmem least⟩, _, ⟨least + 1, Nat.le_succ _, hmore, hmem (least + 1)⟩,
        fun heq => hnil ?_⟩
      exact self_eq_append_left.1 heq
  | several =>
    rw [Variety.repeated]
    split
    case isTrue hmost =>
      ext text
      constructor
      · rintro ⟨k, -, hk, htext⟩
        rwa [Nat.le_zero.1 (hk 0 hmost)] at htext
      · rintro rfl
        exact ⟨0, hbound 0 hmost, fun m _ => Nat.zero_le m, nil_mem_one⟩
    case isFalse hmost =>
      obtain ⟨a, ha⟩ := h.nonempty
      have hpow : Set.Nonempty (L ^ (least - 1)) := ⟨_, mem_pow.2
        ⟨replicate (least - 1) a, rfl, length_replicate, fun b hb => (eq_of_mem_replicate hb).symm ▸ ha⟩⟩
      -- One repetition is allowed, and more if the least number asks for them.
      refine (nontrivial_mul_right h hpow).mono fun text htext => ?_
      refine ⟨least - 1 + 1, by omega, fun m hm => ?_, pow_succ' L _ ▸ htext⟩
      have hpos : m ≠ 0 := fun hzero => hmost (hzero ▸ hm)
      have := hbound m hm
      omega

end Varieties

theorem Proper.variety_of (h : p.Proper) : p.variety.Of p.language := by
  induction p with
  | empty => rfl
  | chars set => 
    cases set with
    | nil =>
      ext text
      simp [language, CodePoints.holds]
      exact notMem_zero text
    | cons first rest =>
      obtain ⟨lo, hi⟩ := first
      have hmem {interval : Nat × Nat} (hmem : interval ∈ (lo, hi) :: rest) {c : Nat} (hlo : interval.1 ≤ c)
          (hhi : c ≤ interval.2) : [c] ∈ (chars ((lo, hi) :: rest)).language :=
        ⟨c, hhi.trans (h interval hmem).2, holds_iff.2 ⟨interval, hmem, hlo, hhi⟩, rfl⟩
      have hlo := hmem mem_cons_self le_rfl (h _ mem_cons_self).1
      rw [variety]
      split
      case isTrue hall =>
        ext text
        constructor
        · rintro ⟨c, -, hc, rfl⟩
          obtain ⟨interval, hinterval, hle, hge⟩ := holds_iff.1 hc
          rw [hall interval hinterval] at hle hge
          rw [Nat.le_antisymm hge hle]
          rfl
        · rintro rfl
          exact hlo
      case isFalse hnot =>
        push Not at hnot
        obtain ⟨interval, hinterval, hne⟩ := hnot
        have hle := (h interval hinterval).1
        by_cases hfirst : interval.1 = lo
        · refine ⟨_, hlo, _, hmem hinterval hle le_rfl, fun heq => hne ?_⟩
          exact Prod.ext hfirst (List.cons.inj heq).1.symm
        · exact ⟨_, hlo, _, hmem hinterval le_rfl hle, fun heq => hfirst (List.cons.inj heq).1.symm⟩
  | group _ ih => exact ih h
  | repeated _ _ _ ih => exact (ih h.1).repeated h.2
  | seq _ _ ih ih' => exact (ih h.1).inRow (ih' h.2)
  | alt _ _ ih ih' => exact (ih h.1).either (ih' h.2)

theorem isVaried_iff (h : p.Proper) : p.isVaried ↔ p.Varied := by
  have hof := h.variety_of
  rw [isVaried]
  cases hvariety : p.variety with
  | none =>
    have hnone : p.language = 0 := by rwa [hvariety] at hof
    exact iff_of_false (by simp) fun ⟨text, htext, _⟩ => notMem_zero text (hnone ▸ htext)
  | one text =>
    have hone : p.language = {text} := by rwa [hvariety] at hof
    refine iff_of_false (by simp) fun hvaried => Set.not_nontrivial_singleton (x := text) ?_
    rwa [Varied, hone] at hvaried
  | several => exact iff_of_true rfl (by rwa [hvariety] at hof)

/-! ### Patterns that are written alike -/

theorem mem_language_iff_branches : text ∈ p.language ↔ ∃ b ∈ p.branches, text ∈ b.language := by
  induction p with
  | alt left right ih ih' =>
    rw [language, mem_add, ih, ih', branches]
    simp only [mem_append, or_and_right, exists_or]
  | _ => simp [branches]

theorem branches_ne_nil (p : Pattern) : p.branches ≠ [] := by
  induction p with
  | alt left right ih ih' =>
    exact fun h => ih (append_eq_nil_iff.1 h).1
  | _ => simp [branches]

theorem language_eq_of_like (h : ∀ b ∈ p.branches, ∀ q, b.like q → q.language = b.language) (halike : p.alike q) :
    q.language = p.language := by
  obtain ⟨hall, hany⟩ := alike_iff.1 halike
  ext text
  rw [mem_language_iff_branches, mem_language_iff_branches]
  constructor
  · rintro ⟨c, hc, htext⟩
    obtain ⟨b, hb, hlike⟩ := hany c hc
    exact ⟨b, hb, h b hb c hlike ▸ htext⟩
  · rintro ⟨b, hb, htext⟩
    obtain ⟨c, hc, hlike⟩ := hall b hb
    exact ⟨c, hc, (h b hb c hlike).symm ▸ htext⟩

theorem WellFormed.language_of_like (h : p.WellFormed) : ∀ b ∈ p.branches, ∀ q, b.like q → q.language = b.language := by
  refine h.forall_branches (fun q hlike => ?_) (fun set q hlike => ?_) (fun inside ih q hlike => ?_)
    (fun part least most ih q hlike => ?_) (fun first second ih ih' q hlike => ?_)
  · rw [like_empty.1 hlike]
  · rw [like_chars.1 hlike]
  · obtain ⟨inside', rfl, halike⟩ := like_group.1 hlike
    rw [language, language, language_eq_of_like ih halike]
  · obtain ⟨part', rfl, hpart⟩ := like_repeated.1 hlike
    rw [language, language, ih part' hpart]
  · obtain ⟨first', second', rfl, hfirst, hsecond⟩ := like_seq.1 hlike
    rw [language, language, ih first' hfirst, ih' second' hsecond]

/-! ### Patterns that are written plainly -/

/-- All alternatives are the same text, written character by character. -/
def PlainAs (p : Pattern) (cs : List Char) : Prop := ∀ b ∈ p.branches, b = ofChars cs

def Plain (p : Pattern) : Prop := ∃ cs, p.PlainAs cs

@[simp]
theorem branches_ofChars (cs : List Char) : (ofChars cs).branches = [ofChars cs] := (part_ofChars cs).single

theorem plainAs_ofChars (cs : List Char) : (ofChars cs).PlainAs cs := by
  simp [PlainAs]

theorem mem_language_oneChar {c : Char} : text ∈ (chars (oneChar c)).language ↔ text = [c.toNat] := by
  constructor
  · rintro ⟨d, -, hd, rfl⟩
    obtain ⟨interval, hmem, hlo, hhi⟩ := holds_iff.1 hd
    cases mem_singleton.1 hmem
    rw [Nat.le_antisymm hhi hlo]
  · rintro rfl
    refine ⟨c.toNat, toNat_le_lastCodePoint c, holds_iff.2 ⟨_, mem_singleton_self _, le_rfl, le_rfl⟩, rfl⟩

theorem mem_language_ofChars : text ∈ (ofChars cs).language ↔ text = cs.map Char.toNat := by
  fun_induction ofChars cs generalizing text with
  | case1 => exact mem_one text
  | case2 c => exact mem_language_oneChar
  | case3 c rest _ ih =>
    constructor
    · rintro ⟨u, hu, v, hv, rfl⟩
      rw [mem_language_oneChar.1 hu, ih.1 hv]
      rfl
    · rintro rfl
      exact ⟨[c.toNat], mem_language_oneChar.2 rfl, rest.map Char.toNat, ih.2 rfl, rfl⟩

theorem PlainAs.mem_language (h : p.PlainAs cs) : text ∈ p.language ↔ text = cs.map Char.toNat := by
  rw [mem_language_iff_branches, ← mem_language_ofChars]
  constructor
  · rintro ⟨b, hb, htext⟩
    exact h b hb ▸ htext
  · intro htext
    obtain ⟨b, hb⟩ := exists_mem_of_ne_nil _ p.branches_ne_nil
    exact ⟨b, hb, (h b hb).symm ▸ htext⟩

theorem Plain.not_varied (h : p.Plain) : ¬ p.Varied := by
  obtain ⟨cs, hcs⟩ := h
  rintro ⟨text, htext, other, hother, hne⟩
  exact hne ((hcs.mem_language.1 htext).trans (hcs.mem_language.1 hother).symm)

theorem map_toNat_injective : Function.Injective (List.map Char.toNat) :=
  map_injective_iff.2 fun _ _ h => Char.ext (UInt32.toNat_inj.1 h)

theorem WellFormed.like_ofChars (h : p.WellFormed) : ∀ b ∈ p.branches, ∀ cs, b.like (ofChars cs) ↔ b = ofChars cs := by
  refine h.forall_branches (fun cs => ?_) (fun set cs => ?_) (fun inside _ cs => ?_) (fun part least most _ cs => ?_)
    (fun first second ih ih' cs => ?_)
  · rw [like_empty, eq_comm]
  · rw [like_chars, eq_comm]
  · fun_cases ofChars cs <;> simp [like_group]
  · fun_cases ofChars cs <;> simp [like_repeated]
  · rw [like_seq]
    fun_cases ofChars cs with
    | case1 | case2 => simp
    | case3 c rest => simpa [ofChars] using and_congr (ih [c]) (ih' rest)

theorem WellFormed.alike_iff_plainAs (h : p.WellFormed) (hq : q.PlainAs cs) : p.alike q ↔ p.PlainAs cs := by
  have hlike {b c : Pattern} (hb : b ∈ p.branches) (hc : c ∈ q.branches) : b.like c ↔ b = ofChars cs := by
    rw [hq c hc]
    exact h.like_ofChars b hb cs
  obtain ⟨b, hb⟩ := exists_mem_of_ne_nil _ p.branches_ne_nil
  obtain ⟨c, hc⟩ := exists_mem_of_ne_nil _ q.branches_ne_nil
  rw [alike_iff]
  constructor
  · rintro ⟨hall, -⟩ b hb
    obtain ⟨c, hc, hbc⟩ := hall b hb
    exact (hlike hb hc).1 hbc
  · intro hplain
    exact ⟨fun b hb => ⟨c, hc, (hlike hb hc).2 (hplain b hb)⟩, fun c hc => ⟨b, hb, (hlike hb hc).2 (hplain b hb)⟩⟩

theorem WellFormed.alike_iff_shares (h : p.WellFormed) (hp : p.Plain) (hq : q.Plain) : p.alike q ↔ p.Shares q := by
  obtain ⟨cs, hcs⟩ := hp
  obtain ⟨ds, hds⟩ := hq
  rw [h.alike_iff_plainAs hds]
  constructor
  · intro hsame
    exact ⟨ds.map Char.toNat, hsame.mem_language.2 rfl, hds.mem_language.2 rfl⟩
  · rintro ⟨text, htext, htext'⟩
    have heq : cs = ds := map_toNat_injective ((hcs.mem_language.1 htext).symm.trans (hds.mem_language.1 htext'))
    exact heq ▸ hcs

end Pattern

/-! ### Names that overlap -/

section Names

variable {name other : String} {p q : Pattern}

theorem overlap_of_ofName (h : ofName name = .ok p) : overlap p p := by
  have hformed : p.WellFormed := .of_parse h
  rw [overlap]
  split
  case isTrue hvaried =>
    rw [Bool.or_self, Pattern.isVaried_iff hformed.proper] at hvaried
    obtain ⟨text, htext, -⟩ := hvaried
    exact (Pattern.meets_iff hformed.proper hformed.proper).2 ⟨text, htext, htext⟩
  case isFalse => exact hformed.alike_self

theorem overlap_iff_shares (hp : ofName name = .ok p) (hq : ofName other = .ok q)
    (h : p.Varied ∨ q.Varied ∨ p.Plain ∧ q.Plain) : overlap p q ↔ p.Shares q := by
  have hformed : p.WellFormed := .of_parse hp
  have hformed' : q.WellFormed := .of_parse hq
  rw [overlap]
  split
  · exact Pattern.meets_iff hformed.proper hformed'.proper
  · rename_i hplain
    rw [Bool.or_eq_true, Pattern.isVaried_iff hformed.proper, Pattern.isVaried_iff hformed'.proper, not_or] at hplain
    rcases h with h | h | ⟨h, h'⟩
    · exact absurd h hplain.1
    · exact absurd h hplain.2
    · exact hformed.alike_iff_shares h h'

theorem overlap_iff_alike (hp : ofName name = .ok p) (hq : ofName other = .ok q) (h : ¬ p.Varied) (h' : ¬ q.Varied) :
    overlap p q ↔ p.alike q := by
  have hformed : p.WellFormed := .of_parse hp
  have hformed' : q.WellFormed := .of_parse hq
  rw [← Pattern.isVaried_iff hformed.proper] at h
  rw [← Pattern.isVaried_iff hformed'.proper] at h'
  simp [overlap, h, h']

end Names

end StreamBot.Trigger

namespace StreamBot.Chat.Handler

open List
open Trigger (Pattern)
open Text (codePoints)

variable {h : Handler} {handlers : List Handler} {text : String}

/-- The handler is as handlers are made: its pattern is that of its name, and it is known whether this has several
texts. -/
structure Made (h : Handler) : Prop where
  named : Trigger.ofName h.name = .ok h.pattern
  varied : h.varied = h.pattern.isVaried

def Fits (h : Handler) (text : String) : Prop := codePoints text ∈ h.pattern.language

/-- The handler is called by a text: its pattern has several texts and this one among them, or it has at most one and is
this one, written character by character. -/
def CalledBy (h : Handler) (text : String) : Prop :=
  h.pattern.Varied ∧ h.Fits text ∨ ¬ h.pattern.Varied ∧ h.pattern.PlainAs text.toList

theorem Made.formed (hmade : h.Made) : h.pattern.WellFormed := .of_parse hmade.named

theorem Made.varied_iff (hmade : h.Made) : h.varied ↔ h.pattern.Varied := by
  rw [hmade.varied, Pattern.isVaried_iff hmade.formed.proper]

theorem Made.matches_iff (hmade : h.Made) : h.pattern.matches text ↔ h.Fits text :=
  Pattern.matches_iff hmade.formed.proper text

theorem Made.answers_iff (hmade : h.Made) : h.answers text ↔ h.CalledBy text := by
  rw [answers, CalledBy, ← hmade.varied_iff]
  cases h.varied with
  | true => simpa using hmade.matches_iff
  | false => simpa [Pattern.literal] using hmade.formed.alike_iff_plainAs (Pattern.plainAs_ofChars text.toList)

theorem CalledBy.fits (hcalled : h.CalledBy text) : h.Fits text := by
  rcases hcalled with ⟨-, hfits⟩ | ⟨-, hplain⟩
  · exact hfits
  · exact hplain.mem_language.2 rfl

theorem calledBy_iff_fits (hpattern : h.pattern.Varied ∨ h.pattern.Plain) : h.CalledBy text ↔ h.Fits text := by
  refine ⟨CalledBy.fits, fun hfits => ?_⟩
  rcases hpattern with hvaried | hplain
  · exact .inl ⟨hvaried, hfits⟩
  · obtain ⟨cs, hcs⟩ := hplain
    have heq : text.toList = cs := Pattern.map_toNat_injective (hcs.mem_language.1 hfits)
    exact .inr ⟨Pattern.Plain.not_varied ⟨cs, hcs⟩, heq ▸ hcs⟩

/-- The first handler in a list that something calls. -/
def IsFirst (handlers : List Handler) (called : Handler → Prop) (h : Handler) : Prop :=
  ∃ before behind, handlers = before ++ h :: behind ∧ called h ∧ ∀ other ∈ before, ¬ called other

/-- A text without one leading exclamation mark, in lower case. -/
def spoken (text : String) : String := Text.lower (Text.dropPrefix text "!")

theorem lookup?_eq_some_iff (hmade : ∀ h ∈ handlers, h.Made) :
    lookup? handlers text = some h ↔ IsFirst handlers (·.CalledBy (spoken text)) h := by
  have hlookup : lookup? handlers text = handlers.find? (·.answers (spoken text)) := rfl
  rw [hlookup, find?_eq_some_iff_append]
  constructor
  · rintro ⟨hcalled, before, behind, rfl, hbefore⟩
    simp only [forall_mem_append, forall_mem_cons] at hmade
    refine ⟨before, behind, rfl, hmade.2.1.answers_iff.1 hcalled, fun other hother hcalls => ?_⟩
    have hanswers := (hmade.1 other hother).answers_iff.2 hcalls
    simpa [hanswers] using hbefore other hother
  · rintro ⟨before, behind, rfl, hcalled, hbefore⟩
    simp only [forall_mem_append, forall_mem_cons] at hmade
    refine ⟨hmade.2.1.answers_iff.2 hcalled, before, behind, rfl, fun other hother => ?_⟩
    have hnot := mt (hmade.1 other hother).answers_iff.1 (hbefore other hother)
    simpa using hnot

theorem lookup?_eq_none_iff (hmade : ∀ h ∈ handlers, h.Made) :
    lookup? handlers text = none ↔ ∀ h ∈ handlers, ¬ h.CalledBy (spoken text) := by
  have hlookup : lookup? handlers text = handlers.find? (·.answers (spoken text)) := rfl
  rw [hlookup, find?_eq_none]
  exact forall₂_congr fun h hmem => not_congr (hmade h hmem).answers_iff

theorem isFirst_congr {called called' : Handler → Prop} (hsame : ∀ h ∈ handlers, called h ↔ called' h) :
    IsFirst handlers called h ↔ IsFirst handlers called' h := by
  refine exists_congr fun before => exists_congr fun behind => and_congr_right ?_
  rintro rfl
  simp only [forall_mem_append, forall_mem_cons] at hsame
  exact and_congr hsame.2.1 (forall₂_congr fun other hother => not_congr (hsame.1 other hother))

/-- Names overlap if they have a text in common, as far as one of them has several texts or both are written plainly.
Otherwise they have at most one text each, and overlap if they are written alike; they then have the same texts.  A text
calls the first handler that is called by it, whose pattern has the text.  Where all patterns have several texts or are
written plainly, this is the first handler whose pattern has the text. -/
theorem overlap_and_lookup {name other : String} {p q : Pattern} (hp : Trigger.ofName name = .ok p)
    (hq : Trigger.ofName other = .ok q) {handlers : List Handler} (hmade : ∀ h ∈ handlers, h.Made) (text : String) :
    ((p.Varied ∨ q.Varied ∨ p.Plain ∧ q.Plain → (Trigger.overlap p q = true ↔ p.Shares q)) ∧
      (¬ p.Varied → ¬ q.Varied → (Trigger.overlap p q = true ↔ p.alike q = true) ∧
        (Trigger.overlap p q = true → p.language = q.language))) ∧
    (∀ h, lookup? handlers text = some h ↔ IsFirst handlers (·.CalledBy (spoken text)) h) ∧
    (lookup? handlers text = none ↔ ∀ h ∈ handlers, ¬ h.CalledBy (spoken text)) ∧
    (∀ h ∈ handlers, h.CalledBy (spoken text) → h.Fits (spoken text)) ∧
    ((∀ h ∈ handlers, h.pattern.Varied ∨ h.pattern.Plain) →
      (∀ h, lookup? handlers text = some h ↔ IsFirst handlers (·.Fits (spoken text)) h) ∧
      (lookup? handlers text = none ↔ ∀ h ∈ handlers, ¬ h.Fits (spoken text))) := by
  constructor
  · refine ⟨Trigger.overlap_iff_shares hp hq, fun hconstant hconstant' => ?_⟩
    have halike := Trigger.overlap_iff_alike hp hq hconstant hconstant'
    have hformed : p.WellFormed := .of_parse hp
    exact ⟨halike, fun hoverlap => (Pattern.language_eq_of_like hformed.language_of_like (halike.1 hoverlap)).symm⟩
  · refine ⟨fun h => lookup?_eq_some_iff hmade, lookup?_eq_none_iff hmade, fun h _ => CalledBy.fits, fun hpatterns => ?_⟩
    have hsame : ∀ h ∈ handlers, h.CalledBy (spoken text) ↔ h.Fits (spoken text) :=
      fun h hmem => calledBy_iff_fits (hpatterns h hmem)
    constructor
    · intro h
      rw [lookup?_eq_some_iff hmade, isFirst_congr hsame]
    · rw [lookup?_eq_none_iff hmade]
      exact forall₂_congr fun h hmem => not_congr (hsame h hmem)

/-- A cry with a repetition, which has one text but is not written plainly. -/
def doubled : Handler where
  name := "a\x7b2\x7d"
  pattern := .repeated (.chars (Trigger.oneChar 'a')) 2 (some 2)
  varied := false
  action := .respond "twice"

def drawled : Handler where
  name := "A+"
  pattern := .repeated (.chars (Trigger.oneChar 'a')) 1 none
  varied := true
  action := .respond "often"

theorem made_doubled : doubled.Made := ⟨by rfl, by decide⟩

theorem made_drawled : drawled.Made := ⟨by rfl, by decide⟩

theorem not_varied_doubled : ¬ doubled.pattern.Varied := mt made_doubled.varied_iff.2 Bool.false_ne_true

theorem varied_drawled : drawled.pattern.Varied := made_drawled.varied_iff.1 rfl

theorem fits_doubled : doubled.Fits "aa" := made_doubled.matches_iff.1 (by decide +kernel)

theorem overlap_and_lookup_cries : Trigger.overlap doubled.pattern drawled.pattern = true ∧
      IsFirst [doubled, drawled] (·.CalledBy (spoken "!AA")) drawled ∧ ¬ doubled.CalledBy (spoken "!AA") := by
  have hmade : ∀ h ∈ [doubled, drawled], h.Made := by
    simpa using ⟨made_doubled, made_drawled⟩
  obtain ⟨⟨hoverlap, -⟩, hlookup, -⟩ := overlap_and_lookup made_doubled.named made_drawled.named hmade "!AA"
  obtain ⟨-, -, hnone, -⟩ := overlap_and_lookup made_doubled.named made_drawled.named
    (forall_mem_singleton.2 made_doubled) "!AA"
  exact ⟨(hoverlap (.inr (.inl varied_drawled))).2 ⟨codePoints "aa", fits_doubled, made_drawled.matches_iff.1 (by decide +kernel)⟩,
    (hlookup drawled).1 (by rfl), hnone.1 (by rfl) doubled mem_cons_self⟩

/-- Two names with a text in common that do not overlap, and a text of a handler's pattern that does not call it. -/
theorem exists_text_not_found : ∃ h : Handler, h.Made ∧ h.Fits (spoken "!aa") ∧ lookup? [h] "!aa" = none ∧
      ∃ q, Trigger.ofName "aa" = .ok q ∧ h.pattern.Shares q ∧ Trigger.overlap h.pattern q = false := by
  have hspoken : spoken "!aa" = "aa" := by decide +kernel
  have hliteral : Trigger.ofName "aa" = .ok (.literal "aa") := by rfl
  have hplain : (Pattern.literal "aa").Plain := ⟨_, Pattern.plainAs_ofChars _⟩
  have halike := Trigger.overlap_iff_alike made_doubled.named hliteral not_varied_doubled hplain.not_varied
  have hunlike : doubled.pattern.alike (.literal "aa") = false := by decide +kernel
  refine ⟨doubled, made_doubled, ?_, by rfl, .literal "aa", hliteral, ?_, ?_⟩
  · rw [hspoken]
    exact fits_doubled
  · exact ⟨codePoints "aa", fits_doubled, Pattern.mem_language_ofChars.2 rfl⟩
  · rw [← Bool.not_eq_true, halike, hunlike]
    exact Bool.false_ne_true

end StreamBot.Chat.Handler
