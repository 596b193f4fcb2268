import Mathlib
import StreamBot.Script.Lexer

/-! # The lexer loses nothing

A source text consists of its tokens, of blanks between them and of what stands behind the end mark.
`Layout source offset words final` says so of the part that begins at `offset`: `words` lie in it one behind
the other, `final` is the end of the input, and every character before the end that belongs to no word is
blank.

A word is read without looking far behind it.  `Stable scanner` says of a scanner that it reads the same word
again if only a blank or nothing follows; with a lemma for each kind of word, a text in which the words are
divided by single blanks has the same words (`tokensFrom_intercalate`).
-/

namespace StreamBot.Script

open List

variable {p : Char → Bool} {tail : List Char} {c : Char}

def Span.stop (s : Span) : Nat := s.offset + s.length

/-- The character with the number `i` belongs to the span. -/
def Span.Covers (s : Span) (i : Nat) : Prop := s.offset ≤ i ∧ i < s.stop

namespace Lexer

/-! ### Runs of a class of characters -/

theorem exists_run (p : Char → Bool) (cs : List Char) :
    ∃ run tail, cs = run ++ tail ∧ (∀ c ∈ run, p c) ∧ tail.takeWhile p = [] := by
  refine ⟨cs.takeWhile p, cs.dropWhile p, takeWhile_append_dropWhile.symm, fun c hc => mem_takeWhile_imp hc, ?_⟩
  rw [takeWhile_eq_nil_iff]
  exact fun h => by simpa using dropWhile_get_zero_not p cs h

theorem takeWhile_run {run : List Char} (hrun : ∀ c ∈ run, p c) (htail : tail.takeWhile p = [])
    : (run ++ tail).takeWhile p = run := by
  rw [takeWhile_append_of_pos hrun, htail, append_nil]

theorem runLength_run {run : List Char} (hrun : ∀ c ∈ run, p c) (htail : tail.takeWhile p = [])
    : runLength p (run ++ tail) = run.length := by
  rw [runLength, takeWhile_run hrun htail]

/-- Nothing more belongs to a word before `tail`: it is empty, or begins with a blank between words. -/
def Apart (tail : List Char) : Prop := tail = [] ∨ ∃ more, tail = ' ' :: more

theorem Apart.head?_ne (h : Apart tail) (hc : c ≠ ' ') : tail.head? ≠ some c := by
  rcases h with rfl | ⟨more, rfl⟩
  · simp
  · simpa using hc.symm

theorem Apart.takeWhile_eq_nil (h : Apart tail) (hp : p ' ' = false) : tail.takeWhile p = [] := by
  rcases h with rfl | ⟨more, rfl⟩
  · rfl
  · simp [hp]

/-! ### Scanning a word again -/

/-- A scanner reads words inside of the text, and reads a word again if it stands alone. -/
def Stable (scanner : List Char → Scan) : Prop :=
  ∀ rest kind n, scanner rest = .ok (kind, n) → n ≤ rest.length ∧ kind ≠ .endOfInput ∧
      ∀ tail, Apart tail → scanner (rest.take n ++ tail) = .ok (kind, n)

theorem scanEquals_stable {short long : TokenKind} (hshort : short ≠ .endOfInput)
    (hlong : long ≠ .endOfInput) : Stable (scanEquals short long) := by
  intro rest kind n h
  unfold scanEquals at h
  split at h
  · next heq =>
    cases h
    obtain ⟨more, rfl⟩ : ∃ more, rest = '=' :: more := head?_eq_some_iff.mp heq
    refine ⟨by simp, hlong, fun tail _ => ?_⟩
    simp [scanEquals]
  · cases h
    refine ⟨by simp, hshort, fun tail htail => ?_⟩
    have hne : tail.head? ≠ some '=' := htail.head?_ne (by decide)
    simp [scanEquals, hne]

theorem scanRange_stable : Stable scanRange := by
  intro rest kind n h
  unfold scanRange at h
  split at h
  all_goals cases h <;> exact ⟨by simp, by decide, fun tail _ => by simp [scanRange]⟩

theorem ofWord?_ne_endOfInput (w : String) : TokenKind.ofWord? w ≠ some .endOfInput := by
  unfold TokenKind.ofWord?
  split <;> simp

theorem scanName_stable (c : Char) : Stable (scanName c) := by
  intro rest kind n h
  obtain ⟨run, more, rfl, hrun, hmore⟩ := exists_run isNameChar rest
  simp only [scanName, takeWhile_run hrun hmore, Except.ok.injEq, Prod.mk.injEq] at h
  obtain ⟨rfl, rfl⟩ := h
  refine ⟨by simp, ?_, fun tail htail => ?_⟩
  · intro hkind
    rcases hword : TokenKind.ofWord? (String.ofList (c :: run)) with _ | found
    · rw [hword] at hkind
      cases hkind
    · rw [hword] at hkind
      exact ofWord?_ne_endOfInput _ (hword.trans (congrArg some hkind))
  · rw [take_left]
    simp only [scanName, takeWhile_run hrun (htail.takeWhile_eq_nil (by decide))]

theorem scanNumber_whole {digits : List Char} (hdigits : ∀ c ∈ digits, Text.isDigit c) (htail : Apart tail)
    : scanNumber (digits ++ tail) = .ok (.numberLiteral, digits.length) := by
  have hpoint : tail.head? ≠ some '.' := htail.head?_ne (by decide)
  simp only [scanNumber, runLength_run hdigits (htail.takeWhile_eq_nil (by decide)), drop_left]
  split
  · exact absurd rfl hpoint
  · rfl

theorem scanNumber_fraction {digits fraction : List Char} (hdigits : ∀ c ∈ digits, Text.isDigit c)
    (hfraction : ∀ c ∈ fraction, Text.isDigit c) (hsome : fraction ≠ []) (htail : Apart tail) :
    scanNumber (digits ++ '.' :: (fraction ++ tail)) = .ok (.numberLiteral, digits.length + 1 + fraction.length) := by
  have hpoint : Text.isDigit '.' = false := by decide
  have hwhole : runLength Text.isDigit (digits ++ '.' :: (fraction ++ tail)) = digits.length :=
    runLength_run hdigits (by simp [hpoint])
  have hrun : runLength Text.isDigit (fraction ++ tail) = fraction.length :=
    runLength_run hfraction (htail.takeWhile_eq_nil (by decide))
  have hhead : (fraction ++ tail).head? ≠ some '.' := by
    obtain ⟨c, more, rfl⟩ := exists_cons_of_ne_nil hsome
    rintro heq
    cases heq
    exact absurd (hfraction '.' mem_cons_self) (by simp [hpoint])
  simp only [scanNumber, hwhole, drop_left, hrun, if_neg hhead]
  split
  · next hzero => exact absurd (length_eq_zero_iff.mp hzero) hsome
  · rfl

theorem scanNumber_stable : Stable scanNumber := by
  intro rest kind n h
  obtain ⟨digits, more, rfl, hdigits, hmore⟩ := exists_run Text.isDigit rest
  -- the word ends behind the digits unless a point and a digit follow
  have hwhole : kind = .numberLiteral ∧ n = digits.length → n ≤ (digits ++ more).length ∧ kind ≠ .endOfInput ∧
        ∀ tail, Apart tail → scanNumber ((digits ++ more).take n ++ tail) = .ok (kind, n) := by
    rintro ⟨rfl, rfl⟩
    refine ⟨by simp, by decide, fun tail htail => ?_⟩
    rw [take_left]
    exact scanNumber_whole hdigits htail
  simp only [scanNumber, runLength_run hdigits hmore, drop_left] at h
  split at h
  · next decimals =>
    obtain ⟨fraction, others, rfl, hfraction, hothers⟩ := exists_run Text.isDigit decimals
    simp only [runLength_run hfraction hothers] at h
    split at h
    · cases h
      exact hwhole ⟨rfl, rfl⟩
    · split at h
      · cases h
      · next hsome =>
        cases h
        have htake : (digits ++ '.' :: (fraction ++ others)).take (digits.length + 1 + fraction.length) =
            digits ++ '.' :: fraction := by
          rw [Nat.add_assoc, take_length_add_append, Nat.add_comm, take_succ_cons, take_left]
        refine ⟨by simp; omega, by decide, fun tail htail => ?_⟩
        rw [htake, append_assoc]
        exact scanNumber_fraction hdigits hfraction (by simpa using hsome) htail
  · cases h
    exact hwhole ⟨rfl, rfl⟩

theorem scanString_append {n : Nat} {rest : List Char} {kind : TokenKind} {m : Nat} (h : scanString n rest = .ok (kind, m)) :
    ∃ k, m = n + k ∧ k ≤ rest.length ∧ kind = .stringLiteral ∧
      ∀ tail, scanString n (rest.take k ++ tail) = .ok (kind, m) := by
  fun_induction scanString n rest with
  | case1 | case2 => cases h
  | case3 n e rest hknown ih =>
    obtain ⟨k, rfl, hk, rfl, hagain⟩ := ih h
    refine ⟨k + 2, by omega, by simpa using hk, rfl, fun tail => ?_⟩
    rw [scanString.eq_def]
    simp [hknown, hagain]
  | case4 => cases h
  | case5 n rest hquote =>
    cases h
    refine ⟨1, rfl, by simp, rfl, fun tail => ?_⟩
    rw [scanString.eq_def]
    simp [hquote]
  | case6 n c rest hescape hquote ih =>
    obtain ⟨k, rfl, hk, rfl, hagain⟩ := ih h
    refine ⟨k + 1, by omega, by simpa using hk, rfl, fun tail => ?_⟩
    rw [scanString.eq_def]
    simp [hescape, hquote, hagain]

theorem scanString_stable : Stable (scanString 0) := by
  intro rest kind n h
  obtain ⟨k, hk, hle, rfl, hagain⟩ := scanString_append h
  obtain rfl : n = k := by omega
  exact ⟨hle, by decide, fun tail _ => hagain tail⟩

theorem ofChar?_ne_endOfInput (c : Char) : TokenKind.ofChar? c ≠ some .endOfInput := by
  unfold TokenKind.ofChar?
  split <;> simp

theorem Stable.ite {p : Prop} [Decidable p] {f g : List Char → Scan} (hf : Stable f) (hg : Stable g) :
    Stable fun rest => if p then f rest else g rest := by
  by_cases hp : p
  · simpa [hp] using hf
  · simpa [hp] using hg

theorem Stable.error (fault : LexFault × Nat) : Stable fun _ => .error fault := by
  intro rest kind n h
  cases h

/-- **Every word is read again if it stands alone.** -/
theorem scan_stable (c : Char) : Stable (scan c) := by
  have hequals : ∀ {short long : TokenKind}, short ≠ .endOfInput → long ≠ .endOfInput →
      Stable (scanEquals short long) := scanEquals_stable
  rcases hchar : TokenKind.ofChar? c with _ | found
  · unfold scan
    simp only [hchar]
    refine .ite scanNumber_stable ?_
    refine .ite (hequals (by decide) (by decide)) ?_
    refine .ite (hequals (by decide) (by decide)) ?_
    refine .ite (hequals (by decide) (by decide)) ?_
    refine .ite (hequals (by decide) (by decide)) ?_
    refine .ite scanRange_stable ?_
    refine .ite scanString_stable ?_
    exact .ite (scanName_stable c) (.ite (.error _) (.error _))
  · intro rest kind n h
    simp only [scan, hchar] at h ⊢
    cases h
    exact ⟨by simp, fun hkind => ofChar?_ne_endOfInput c (hkind ▸ hchar), fun tail _ => rfl⟩

/-! ### Words of a text -/

/-- Wherever the text of a token stands alone, it is read as this token. -/
def StandsAlone (t : Token) : Prop :=
  ∃ c w, t.lexeme = String.ofList (c :: w) ∧ Text.isBlank c = false ∧ c ≠ endMark ∧
    ∀ tail, Apart tail → scan c (w ++ tail) = .ok (t.kind, w.length)

/-- Where the tokens of a source text lie, from a place on: `words` and behind them `final`. -/
structure Layout (source : List Char) (offset : Nat) (words : List Token) (final : Token) : Prop where
  /-- The last token, and no other one, is the end of the input. -/
  final_kind : final.kind = .endOfInput
  kinds : ∀ t ∈ words, t.kind ≠ .endOfInput
  nonempty : ∀ t ∈ words, 1 ≤ t.span.length
  starts : ∀ t ∈ words, offset ≤ t.span.offset
  stops : ∀ t ∈ words, t.span.stop ≤ final.span.offset
  lexemes : ∀ t ∈ words, t.lexeme = String.ofList (t.span.lexeme source)
  ordered : words.Pairwise fun a b => a.span.offset < b.span.offset ∧ a.span.stop ≤ b.span.offset
  blanks : ∀ i, offset ≤ i → i < final.span.offset → (∀ t ∈ words, ¬ t.span.Covers i) →
    ∃ c, source[i]? = some c ∧ Text.isBlank c
  reaches : offset ≤ final.span.offset
  inside : final.span.offset ≤ source.length
  /-- The input ends where the text does, or at an end mark. -/
  ends : final.span.offset = source.length ∨ source[final.span.offset]? = some endMark

namespace Layout

variable {source : List Char} {offset : Nat} {words : List Token} {final : Token}

theorem done (hkind : final.kind = .endOfInput) (hfinal : final.span.offset = offset)
    (hinside : offset ≤ source.length) (hends : offset = source.length ∨ source[offset]? = some endMark) :
    Layout source offset [] final where
  final_kind := hkind
  kinds := by simp
  nonempty := by simp
  starts := by simp
  stops := by simp
  lexemes := by simp
  ordered := .nil
  blanks := by omega
  reaches := by omega
  inside := by omega
  ends := hfinal ▸ hends

theorem blank (hc : source[offset]? = some c) (hblank : Text.isBlank c) (h : Layout source (offset + 1) words final)
    : Layout source offset words final where
  final_kind := h.final_kind
  kinds := h.kinds
  nonempty := h.nonempty
  starts := fun t ht => by have := h.starts t ht; omega
  stops := h.stops
  lexemes := h.lexemes
  ordered := h.ordered
  blanks := by
    intro i hi hlt hfree
    rcases Nat.eq_or_lt_of_le hi with rfl | hi
    · exact ⟨c, hc, hblank⟩
    · exact h.blanks i hi hlt hfree
  reaches := by have := h.reaches; omega
  inside := h.inside
  ends := h.ends

theorem word {t : Token} (hkind : t.kind ≠ .endOfInput) (hoffset : t.span.offset = offset)
    (hlength : 1 ≤ t.span.length) (hlexeme : t.lexeme = String.ofList (t.span.lexeme source))
    (h : Layout source t.span.stop words final) : Layout source offset (t :: words) final where
  final_kind := h.final_kind
  kinds := forall_mem_cons.mpr ⟨hkind, h.kinds⟩
  nonempty := forall_mem_cons.mpr ⟨hlength, h.nonempty⟩
  starts := by
    refine forall_mem_cons.mpr ⟨by omega, fun a ha => ?_⟩
    have hstart := h.starts a ha
    simp only [Span.stop] at hstart
    omega
  stops := forall_mem_cons.mpr ⟨h.reaches, h.stops⟩
  lexemes := forall_mem_cons.mpr ⟨hlexeme, h.lexemes⟩
  ordered := by
    refine pairwise_cons.mpr ⟨fun a ha => ?_, h.ordered⟩
    have hstart := h.starts a ha
    simp only [Span.stop] at hstart ⊢
    omega
  blanks := by
    intro i hi hlt hfree
    obtain ⟨hfirst, hothers⟩ := forall_mem_cons.mp hfree
    refine h.blanks i ?_ hlt hothers
    by_contra hbefore
    exact hfirst ⟨by omega, by omega⟩
  reaches := by have := h.reaches; simp only [Span.stop] at this; omega
  inside := h.inside
  ends := h.ends

end Layout

theorem getElem?_of_drop {source rest : List Char} {offset : Nat} (h : source.drop offset = c :: rest)
    : source[offset]? = some c := by
  rw [← head?_drop, h, head?_cons]

/-- **The tokens of a part of a source text lie in it**, and each of them stands alone. -/
theorem tokensFrom_layout {source cs : List Char} {offset : Nat} {tokens : List Token}
    (hcs : source.drop offset = cs) (hoffset : offset ≤ source.length) (h : tokensFrom source offset cs = .ok tokens) :
    ∃ words final, tokens = words ++ [final] ∧ Layout source offset words final ∧ ∀ t ∈ words, StandsAlone t := by
  fun_induction tokensFrom source offset cs generalizing tokens with
  | case1 offset =>
    cases h
    have hend : offset = source.length := by
      have := drop_eq_nil_iff.mp hcs
      omega
    exact ⟨[], _, rfl, .done rfl rfl hoffset (.inl hend), by simp⟩
  | case2 offset c rest hblank ih =>
    have hrest : source.drop (offset + 1) = rest := by rw [← drop_drop, hcs]; rfl
    have hlength := congrArg List.length hcs
    simp only [length_drop, length_cons] at hlength
    obtain ⟨words, final, rfl, hlayout, halone⟩ := ih hrest (by omega) h
    exact ⟨words, final, rfl, .blank (getElem?_of_drop hcs) hblank hlayout, halone⟩
  | case3 offset rest =>
    cases h
    exact ⟨[], _, rfl, .done rfl rfl hoffset (.inr (getElem?_of_drop hcs)), by simp⟩
  | case4 | case5 => cases h
  | case6 offset c rest hblank hmark kind n hscan others hothers token =>
    rename_i ih
    cases h
    obtain ⟨hn, hkind, hagain⟩ := scan_stable c rest kind n hscan
    have hlength := congrArg List.length hcs
    simp only [length_drop, length_cons] at hlength
    have hrest : source.drop (offset + (n + 1)) = rest.drop n := by rw [← drop_drop, hcs]; rfl
    obtain ⟨words, final, rfl, hlayout, halone⟩ := ih hrest (by omega) hothers
    refine ⟨_ :: words, final, rfl, .word hkind rfl (Nat.le_add_left 1 n) ?_ hlayout,
      forall_mem_cons.mpr ⟨⟨c, rest.take n, rfl, by simpa using hblank, hmark, ?_⟩, halone⟩⟩
    · simp [token, Span.lexeme, hcs]
    · intro tail htail
      simpa [hn] using hagain tail htail

/-! ### Words divided by blanks -/

theorem tokensFrom_nil (source : List Char) (offset : Nat) :
    ∃ final, tokensFrom source offset [] = .ok [final] ∧ final.kind = .endOfInput := by
  rw [tokensFrom]
  exact ⟨_, rfl, rfl⟩

theorem tokensFrom_blank (source : List Char) (offset : Nat) (rest : List Char) :
    tokensFrom source offset (' ' :: rest) = tokensFrom source (offset + 1) rest := by
  rw [tokensFrom, if_pos (by decide)]

theorem tokensFrom_word {t : Token} (ht : StandsAlone t) (source : List Char) (offset : Nat) (htail : Apart tail)
    {tokens : List Token} (h : tokensFrom source (offset + t.lexeme.length) tail = .ok tokens) :
    ∃ t', tokensFrom source offset (t.lexeme.toList ++ tail) = .ok (t' :: tokens) ∧
      t'.kind = t.kind ∧ t'.lexeme = t.lexeme := by
  obtain ⟨c, w, hlexeme, hblank, hmark, hscan⟩ := ht
  have hrest : tokensFrom source (offset + (w.length + 1)) ((w ++ tail).drop w.length) = .ok tokens := by
    simpa [hlexeme, Nat.add_comm 1] using h
  rw [hlexeme, String.toList_ofList, cons_append, tokensFrom, if_neg (by simp [hblank]), if_neg hmark, hscan tail htail]
  simp only [hrest]
  exact ⟨_, rfl, rfl, by simp⟩

def shape (t : Token) : TokenKind × String := (t.kind, t.lexeme)

/-- **Tokens that stand alone are read again** from their texts with single blanks between them. -/
theorem tokensFrom_intercalate {words : List Token} (halone : ∀ t ∈ words, StandsAlone t)
    (source : List Char) (offset : Nat) :
    ∃ again final, tokensFrom source offset ([' '].intercalate (words.map (·.lexeme.toList))) =
        .ok (again ++ [final]) ∧ again.map shape = words.map shape ∧ final.kind = .endOfInput := by
  induction words generalizing offset with
  | nil =>
    obtain ⟨final, hfinal, hkind⟩ := tokensFrom_nil source offset
    exact ⟨[], final, hfinal, rfl, hkind⟩
  | cons t words ih =>
    obtain ⟨ht, hwords⟩ := forall_mem_cons.mp halone
    cases words with
    | nil =>
      obtain ⟨final, hfinal, hkind⟩ := tokensFrom_nil source (offset + t.lexeme.length)
      obtain ⟨t', hread, hk, hl⟩ := tokensFrom_word ht source offset (.inl rfl) hfinal
      exact ⟨[t'], final, by simpa using hread, by simp [shape, hk, hl], hkind⟩
    | cons next words =>
      obtain ⟨again, final, hagain, hshape, hkind⟩ := ih hwords (offset + t.lexeme.length + 1)
      rw [← tokensFrom_blank] at hagain
      obtain ⟨t', hread, hk, hl⟩ := tokensFrom_word ht source offset (.inr ⟨_, rfl⟩) hagain
      refine ⟨t' :: again, final, ?_, by simp [shape, hk, hl, ← hshape], hkind⟩
      simpa [intercalate_cons_cons] using hread

end Lexer

/-- **The lexer loses nothing.**  If a source text has tokens,

* they are words and behind them the end of the input, which lie in the text one behind the other, and what
  belongs to no word before the end is blank,
* and the texts of the words, with single blanks between them, are a source text with the same words. -/
theorem tokenize_lossless {source : String} {tokens : List Token} (h : tokenize source = .ok tokens) :
    ∃ words final, tokens = words ++ [final] ∧ Lexer.Layout source.toList 0 words final ∧
      ∃ again finish, tokenize (" ".intercalate (words.map (·.lexeme))) = .ok (again ++ [finish]) ∧
        again.map Lexer.shape = words.map Lexer.shape ∧ finish.kind = .endOfInput := by
  obtain ⟨words, final, htokens, hlayout, halone⟩ := Lexer.tokensFrom_layout rfl (Nat.zero_le _) h
  refine ⟨words, final, htokens, hlayout, ?_⟩
  have hjoined : (" ".intercalate (words.map (·.lexeme))).toList = [' '].intercalate (words.map (·.lexeme.toList)) := by
    rw [String.toList_intercalate, map_map]
    rfl
  rw [tokenize, hjoined]
  exact Lexer.tokensFrom_intercalate halone _ 0

def cramped : String := "a=='b c'..=²\x00;"

def crampedWords : List Token := [ ⟨.identifier, "a", ⟨0, 1⟩, ⟨⟨1, 1⟩, ⟨1, 2⟩⟩⟩,
  ⟨.equalsEquals, "==", ⟨1, 2⟩, ⟨⟨1, 2⟩, ⟨1, 4⟩⟩⟩,
  ⟨.stringLiteral, "'b c'", ⟨3, 5⟩, ⟨⟨1, 4⟩, ⟨1, 9⟩⟩⟩,
  ⟨.dotDotEquals, "..=", ⟨8, 3⟩, ⟨⟨1, 9⟩, ⟨1, 12⟩⟩⟩,
  ⟨.numberLiteral, "²", ⟨11, 1⟩, ⟨⟨1, 12⟩, ⟨1, 13⟩⟩⟩]

def crampedEnd : Token := ⟨.endOfInput, "\x00", ⟨12, 1⟩, ⟨⟨1, 13⟩, ⟨1, 14⟩⟩⟩

theorem tokenize_cramped : tokenize cramped = .ok (crampedWords ++ [crampedEnd]) := by
  cbv

/-- The input ends at the end mark, and the words are read again with blanks between them. -/
theorem tokenize_lossless_cramped : tokenize cramped = .ok (crampedWords ++ [crampedEnd]) ∧
      Lexer.Layout cramped.toList 0 crampedWords crampedEnd ∧
      ∃ again finish, tokenize "a == 'b c' ..= ²" = .ok (again ++ [finish]) ∧
        again.map Lexer.shape = crampedWords.map Lexer.shape ∧ finish.kind = .endOfInput := by
  obtain ⟨words, final, htokens, hlayout, hagain⟩ := tokenize_lossless tokenize_cramped
  obtain ⟨hwords, hfinal⟩ := append_inj' htokens rfl
  obtain rfl : crampedWords = words := hwords
  obtain rfl : crampedEnd = final := by simpa using hfinal
  exact ⟨tokenize_cramped, hlayout, hagain⟩

end StreamBot.Script
