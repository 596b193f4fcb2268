import StreamBot.Proofs.Script.Lexing
import StreamBot.Proofs.Script.Rendering
import StreamBot.Proofs.Script.Soundness

/-! # Literals

A token that stands alone and is a literal has the form that the parser needs: truth values are one of two
words, strings can be decoded, and numbers are digits with at most one point between them.  The only thing that
can go wrong is a digit that is not decimal (`StandsAlone.number`).

Every text can be written as a string literal (`strings_denoted`): the lexer passes an escaped character as a whole
(`scanString_encodeChar`), like the parser later on.  Conversely, `$` lexes a text and looks at its first two tokens.  It gives a
number exactly if these write it (`toNumber_eval`).  What comes behind a sign and a number is not looked at
(`exists_number_with_rest`).
-/

namespace StreamBot.Script

open List TokenKind
open Text (isDigit decimalValue? decimalValues?)
open Escape (quote backslash encode encodeChar decodeChar?)
open StreamBot.Script.Parser (quoted)

variable {t : Token} {kind : TokenKind} {w : String}

def TokenKind.isLiteral : TokenKind → Bool
  | stringLiteral | numberLiteral | boolLiteral => true
  | _ => false

theorem TokenKind.isLiteral_ofChar? {c : Char} (h : ofChar? c = some kind) : kind.isLiteral = false := by
  unfold ofChar? at h
  split at h <;> cases h <;> rfl

theorem TokenKind.eq_of_ofWord? (h : ofWord? w = some .boolLiteral) : w = "true" ∨ w = "false" := by
  unfold ofWord? at h
  split at h
  case h_5 => exact .inl rfl
  case h_6 => exact .inr rfl
  all_goals cases h

theorem TokenKind.eq_boolLiteral_of_ofWord? (h : ofWord? w = some kind)
    (hkind : kind.isLiteral) : kind = .boolLiteral := by
  unfold ofWord? at h
  split at h <;> cases h
  case h_5 | h_6 => rfl
  all_goals cases hkind

namespace Lexer

variable {c : Char} {w : List Char} {kind : TokenKind} {n : ℕ}

theorem isLiteral_scanEquals {short long : TokenKind} (hshort : short.isLiteral = false)
    (hlong : long.isLiteral = false) (h : scanEquals short long w = .ok (kind, n)) : kind.isLiteral = false := by
  unfold scanEquals at h
  split at h
  · cases h
    exact hlong
  · cases h
    exact hshort

theorem isLiteral_scanRange (h : scanRange w = .ok (kind, n)) : kind.isLiteral = false := by
  unfold scanRange at h
  split at h <;> cases h <;> rfl

theorem kind_scanNumber (h : scanNumber w = .ok (kind, n)) : kind = .numberLiteral := by
  unfold scanNumber at h
  grind

theorem kind_scanName (h : scanName c w = .ok (kind, n)) (hkind : kind.isLiteral) : kind = .boolLiteral := by
  cases h
  rcases hword : ofWord? (String.ofList (c :: w.takeWhile isNameChar)) with _ | found
  · rw [hword] at hkind
    cases hkind
  · rw [hword] at hkind
    exact eq_boolLiteral_of_ofWord? hword hkind

theorem scan_literal (h : scan c w = .ok (kind, n)) (hkind : kind.isLiteral) :
    (kind = .numberLiteral ∧ isDigit c ∧ scanNumber w = .ok (kind, n)) ∨
      (kind = .stringLiteral ∧ c = quote ∧ scanString 0 w = .ok (kind, n)) ∨
      (kind = .boolLiteral ∧ scanName c w = .ok (kind, n)) := by
  have hother : kind.isLiteral ≠ false := by simp [hkind]
  unfold scan at h
  rcases hchar : ofChar? c with _ | found
  · simp only [hchar] at h
    split_ifs at h with hdigit _ _ _ _ _ hquote hname
    · exact .inl ⟨kind_scanNumber h, hdigit, h⟩
    · exact absurd (isLiteral_scanEquals rfl rfl h) hother
    · exact absurd (isLiteral_scanEquals rfl rfl h) hother
    · exact absurd (isLiteral_scanEquals rfl rfl h) hother
    · exact absurd (isLiteral_scanEquals rfl rfl h) hother
    · exact absurd (isLiteral_scanRange h) hother
    · obtain ⟨-, -, -, hstring, -⟩ := scanString_append h
      exact .inr (.inl ⟨hstring, hquote, h⟩)
    · exact .inr (.inr ⟨kind_scanName h hkind, h⟩)
  · simp only [hchar] at h
    cases h
    exact absurd (isLiteral_ofChar? hchar) hother

theorem StandsAlone.scan (h : StandsAlone t) :
    ∃ c w, t.lexeme = String.ofList (c :: w) ∧ Lexer.scan c w = .ok (t.kind, w.length) := by
  obtain ⟨c, w, hlexeme, -, -, hscan⟩ := h
  have hword := hscan [] (.inl rfl)
  rw [append_nil] at hword
  exact ⟨c, w, hlexeme, hword⟩

/-! ### Numbers -/

theorem scanNumber_eq (h : scanNumber w = .ok (kind, w.length)) : (∀ d ∈ w, isDigit d) ∨
      ∃ whole fraction, w = whole ++ '.' :: fraction ∧ (∀ d ∈ whole, isDigit d) ∧
        ∀ d ∈ fraction, isDigit d := by
  obtain ⟨whole, more, rfl, hwhole, hmore⟩ := exists_run isDigit w
  simp only [scanNumber, runLength_run hwhole hmore, drop_left] at h
  split at h
  · next decimals =>
    obtain ⟨fraction, others, rfl, hfraction, hothers⟩ := exists_run isDigit decimals
    simp only [runLength_run hfraction hothers] at h
    split at h
    · simp at h
    · split at h
      · cases h
      · simp only [Except.ok.injEq, Prod.mk.injEq, length_append, length_cons] at h
        obtain rfl : others = [] := length_eq_zero_iff.mp (by omega)
        rw [append_nil]
        exact .inr ⟨whole, fraction, rfl, hwhole, hfraction⟩
  · simp only [Except.ok.injEq, Prod.mk.injEq, length_append] at h
    obtain rfl : more = [] := length_eq_zero_iff.mp (by omega)
    rw [append_nil]
    exact .inl hwhole

theorem exists_not_decimal {ds : List Char} (hdigits : ∀ d ∈ ds, isDigit d)
    (h : decimalValues? ds = none) : ∃ d ∈ ds, isDigit d ∧ decimalValue? d = none := by
  induction ds with
  | nil => cases h
  | cons d rest ih =>
    obtain ⟨hd, hrest⟩ := forall_mem_cons.mp hdigits
    cases hvalue : decimalValue? d with
    | none => exact ⟨d, mem_cons_self, hd, hvalue⟩
    | some x =>
      have hnone : decimalValues? rest = none := by
        cases hvalues : decimalValues? rest with
        | none => rfl
        | some xs =>
          simp only [decimalValues?] at h hvalues
          simp [mapM_cons, hvalue, hvalues] at h
      obtain ⟨c, hc, hfound⟩ := ih hrest hnone
      exact ⟨c, mem_cons_of_mem d hc, hfound⟩

theorem span_of_digits {whole : List Char} (hwhole : ∀ d ∈ whole, isDigit d) (tail : List Char) :
    (whole ++ tail).span (· != '.') = (whole ++ tail.takeWhile (· != '.'), tail.dropWhile (· != '.')) := by
  have hpoint : ∀ d ∈ whole, (d != '.') := by
    intro d hd
    have hdigit := hwhole d hd
    rw [bne_iff_ne]
    rintro rfl
    exact absurd hdigit (by decide)
  rw [span_eq_takeWhile_dropWhile, takeWhile_append_of_pos hpoint, dropWhile_append_of_pos hpoint]

/-- **A number is read unless one of its digits is not decimal.** -/
theorem StandsAlone.number (h : StandsAlone t) (hkind : t.kind = .numberLiteral)
    (hread : Decimal.read? t.lexeme.toList = none) :
    ∃ d ∈ t.lexeme.toList, isDigit d ∧ decimalValue? d = none := by
  obtain ⟨c, w, hlexeme, hword⟩ := h.scan
  rw [hlexeme, String.toList_ofList] at hread ⊢
  rcases scan_literal hword (by simp [hkind, isLiteral]) with
    ⟨-, hfirst, hnumber⟩ | ⟨hstring, -⟩ | ⟨hbool, -⟩
  · rcases scanNumber_eq hnumber with hdigits | ⟨whole, fraction, rfl, hwhole, hfraction⟩
    · -- digits only
      have hall : ∀ d ∈ c :: w, isDigit d := forall_mem_cons.mpr ⟨hfirst, hdigits⟩
      have hspan := span_of_digits hall []
      simp only [append_nil, takeWhile_nil, dropWhile_nil] at hspan
      rw [Decimal.read?, hspan] at hread
      refine exists_not_decimal hall (Option.eq_none_iff_forall_ne_some.mpr ?_)
      simpa using hread
    · -- a point between digits
      have hall : ∀ d ∈ c :: whole, isDigit d := forall_mem_cons.mpr ⟨hfirst, hwhole⟩
      have hspan := span_of_digits hall ('.' :: fraction)
      simp only [bne_self_eq_false, Bool.false_eq_true, not_false_eq_true, takeWhile_cons_of_neg,
        dropWhile_cons_of_neg, append_nil, cons_append] at hspan
      rw [Decimal.read?, hspan] at hread
      rw [← cons_append]
      cases hvalues : decimalValues? (c :: whole) with
      | none =>
        obtain ⟨d, hd, hfound⟩ := exists_not_decimal hall hvalues
        exact ⟨d, mem_append_left _ hd, hfound⟩
      | some values =>
        have hnone : decimalValues? fraction = none :=
          Option.eq_none_iff_forall_ne_some.mpr (by simpa [hvalues] using hread)
        obtain ⟨d, hd, hfound⟩ := exists_not_decimal hfraction hnone
        exact ⟨d, mem_append_right _ (mem_cons_of_mem _ hd), hfound⟩
  · rw [hkind] at hstring
    cases hstring
  · rw [hkind] at hbool
    cases hbool

/-! ### Strings and truth values -/

theorem scanString_eq {m : ℕ} (h : scanString m w = .ok (kind, n)) :
    ∃ inner tail, w = inner ++ quote :: tail ∧ n = m + inner.length + 1 ∧ (Escape.decode inner).isSome := by
  fun_induction scanString m w with
  | case1 | case2 => cases h
  | case3 m e rest hknown ih =>
    obtain ⟨inner, tail, rfl, rfl, hdecode⟩ := ih h
    refine ⟨backslash :: e :: inner, tail, rfl, by simp; omega, ?_⟩
    obtain ⟨d, hd⟩ := Option.isSome_iff_exists.mp hknown
    obtain ⟨cs, hcs⟩ := Option.isSome_iff_exists.mp hdecode
    simp [Escape.decode, hd, hcs]
  | case4 => cases h
  | case5 m rest hquote =>
    cases h
    exact ⟨[], rest, rfl, rfl, rfl⟩
  | case6 m c rest hescape hquote ih =>
    obtain ⟨inner, tail, rfl, rfl, hdecode⟩ := ih h
    refine ⟨c :: inner, tail, rfl, by simp; omega, ?_⟩
    obtain ⟨cs, hcs⟩ := Option.isSome_iff_exists.mp hdecode
    rw [Escape.decode.eq_def]
    simp [hescape, hcs]

/-- **A string can be decoded.** -/
theorem StandsAlone.string (h : StandsAlone t) (hkind : t.kind = .stringLiteral) :
    (Parser.stringOfLexeme? t.lexeme.toList).isSome := by
  obtain ⟨c, w, hlexeme, hword⟩ := h.scan
  rw [hlexeme]
  rcases scan_literal hword (by simp [hkind, isLiteral]) with
    ⟨hnumber, -⟩ | ⟨-, rfl, hstring⟩ | ⟨hbool, -⟩
  · rw [hkind] at hnumber
    cases hnumber
  · obtain ⟨inner, tail, rfl, hlength, hdecode⟩ := scanString_eq hstring
    obtain rfl : tail = [] := by
      simp only [length_append, length_cons] at hlength
      exact length_eq_zero_iff.mp (by omega)
    simpa [Parser.stringOfLexeme?] using hdecode
  · rw [hkind] at hbool
    cases hbool

/-- **A truth value is one of two words.** -/
theorem StandsAlone.bool (h : StandsAlone t) (hkind : t.kind = .boolLiteral) :
    t.lexeme = "true" ∨ t.lexeme = "false" := by
  obtain ⟨c, w, hlexeme, hword⟩ := h.scan
  rcases scan_literal hword (by simp [hkind, isLiteral]) with
    ⟨hnumber, -⟩ | ⟨hstring, -⟩ | ⟨-, hname⟩
  · rw [hkind] at hnumber
    cases hnumber
  · rw [hkind] at hstring
    cases hstring
  · rw [hlexeme]
    refine eq_of_ofWord? ?_
    simp only [scanName, Except.ok.injEq, Prod.mk.injEq] at hname
    obtain ⟨hreserved, hlength⟩ := hname
    have hwhole : w.takeWhile isNameChar = w :=
      List.IsPrefix.eq_of_length ( takeWhile_prefix isNameChar) hlength
    rw [hwhole, hkind] at hreserved
    rcases hfound : ofWord? (String.ofList (c :: w)) with _ | found
    · rw [hfound] at hreserved
      cases hreserved
    · rw [hfound] at hreserved
      exact congrArg some hreserved

/-! ### Texts as string literals -/

theorem scanString_encodeChar (n : ℕ) (c : Char) (rest : List Char) :
    scanString n (encodeChar c ++ rest) = scanString (n + (encodeChar c).length) rest := by
  have hescape {written : Char} (hknown : (decodeChar? written).isSome) :
      scanString n (backslash :: written :: rest) = scanString (n + 2) rest := by
    rw [scanString.eq_def]
    simp [hknown]
  unfold encodeChar
  split
  · exact hescape rfl
  · split
    · next hspecial =>
      rcases hspecial with rfl | rfl <;> exact hescape rfl
    · next hspecial =>
      obtain ⟨hquote, hbackslash⟩ := not_or.1 hspecial
      rw [scanString.eq_def]
      simp [hquote, hbackslash]

theorem scanString_encode (n : ℕ) (cs tail : List Char) :
    scanString n (encode cs ++ quote :: tail) = .ok (.stringLiteral, n + (encode cs).length + 1) := by
  induction cs generalizing n with
  | nil =>
    rw [scanString.eq_def]
    simp [quote, backslash, encode]
  | cons c cs ih =>
    have hcons : encode (c :: cs) = encodeChar c ++ encode cs := rfl
    rw [hcons, append_assoc, scanString_encodeChar, ih, length_append, Nat.add_assoc n]

theorem standsAlone_quoted (s : String) : StandsAlone ⟨.stringLiteral, quoted s, default, default⟩ := by
  refine ⟨quote, encode s.toList ++ [quote], rfl, by decide, by decide, fun tail _ => ?_⟩
  have hscan (rest : List Char) : scan quote rest = scanString 0 rest := rfl
  rw [hscan, append_assoc, singleton_append, scanString_encode]
  simp

end Lexer

/-- **Every text can be written as a string literal, and every string literal stands for a text.**  A text between quotes, with
its backslashes, quotes and line ends escaped, is read as one token that stands for the text; and whatever source text it is
in, a token that is a string literal stands for some text. -/
theorem strings_denoted (s : String) :
    (∃ t final, tokenize (quoted s) = .ok [t, final] ∧ t.kind = .stringLiteral ∧ final.kind = .endOfInput ∧
      Parser.stringOfLexeme? t.lexeme.toList = some s.toList) ∧
    ∀ source tokens, tokenize source = .ok tokens → ∀ t ∈ tokens, t.kind = .stringLiteral →
      ∃ text, Parser.stringOfLexeme? t.lexeme.toList = some text := by
  constructor
  · obtain ⟨final, hfinal, hkind⟩ := Lexer.tokensFrom_nil (quoted s).toList (0 + (quoted s).length)
    obtain ⟨t, hread, ht, hlexeme⟩ := Lexer.tokensFrom_word (Lexer.standsAlone_quoted s) _ 0 (.inl rfl) hfinal
    rw [append_nil] at hread
    exact ⟨t, final, hread, ht, hkind, hlexeme ▸ Parser.stringOfLexeme?_quoted s⟩
  · intro source tokens h t ht hstring
    obtain ⟨words, final, rfl, hlayout, halone⟩ := Lexer.tokensFrom_layout rfl (Nat.zero_le _) h
    rcases mem_append.1 ht with hword | hlast
    · exact Option.isSome_iff_exists.1 ((halone t hword).string hstring)
    · rw [mem_singleton.1 hlast, hlayout.final_kind] at hstring
      cases hstring

/-! ### Texts that write numbers -/

/-- The tokens of a text that writes a number.  Only the end of the text may come behind a number without a sign, and anything
behind a number with a sign. -/
inductive NumberTokens : List Token → Float → Prop where
  | bare {t final rest x} (hkind : t.kind = .numberLiteral) (hread : Decimal.read? t.lexeme.toList = some x)
      (hfinal : final.kind = .endOfInput) : NumberTokens (t :: final :: rest) x
  | signed {sign t rest x y} (hsign : sign.kind = .plus ∧ y = x ∨ sign.kind = .minus ∧ y = -x)
      (hkind : t.kind = .numberLiteral) (hread : Decimal.read? t.lexeme.toList = some x) : NumberTokens (sign :: t :: rest) y

/-- What is wrong with a text that writes no number: it has no tokens, they are not those of a number, or some digit has no
value. -/
inductive NoNumber (s : String) : Fault → Prop where
  | notLexable (error : LexError) : NoNumber s (.notLexable s error)
  | notNumber : NoNumber s (.notNumber s)
  | numberText {t : Token} (hread : Decimal.read? t.lexeme.toList = none) : NoNumber s (.numberText t.lexeme)

variable {σ : Type} {tokens : List Token} {x : Float} {s : String}

theorem numberOfText_cases (s : String) :
    (∃ tokens x, tokenize s = .ok tokens ∧ NumberTokens tokens x ∧ numberOfText s = .ok x) ∨
      ∃ fault, NoNumber s fault ∧ numberOfText s = .error fault := by
  rw [numberOfText]
  dsimp only
  split
  · exact .inr ⟨_, .notLexable _, rfl⟩
  · next first second rest htokens =>
    split
    · next hkind hfinal =>
      cases hread : Decimal.read? first.lexeme.toList with
      | some x => exact .inl ⟨_, x, htokens, .bare hkind hread hfinal, rfl⟩
      | none => exact .inr ⟨_, .numberText hread, rfl⟩
    · next hsign hkind =>
      cases hread : Decimal.read? second.lexeme.toList with
      | some x => exact .inl ⟨_, x, htokens, .signed (.inl ⟨hsign, rfl⟩) hkind hread, rfl⟩
      | none => exact .inr ⟨_, .numberText hread, rfl⟩
    · next hsign hkind =>
      cases hread : Decimal.read? second.lexeme.toList with
      | some x => exact .inl ⟨_, -x, htokens, .signed (.inr ⟨hsign, rfl⟩) hkind hread, rfl⟩
      | none => exact .inr ⟨_, .numberText hread, rfl⟩
    · exact .inr ⟨_, .notNumber, rfl⟩
  · exact .inr ⟨_, .notNumber, rfl⟩

theorem NumberTokens.numberOfText (h : NumberTokens tokens x) (htokens : tokenize s = .ok tokens) :
    numberOfText s = .ok x := by
  rw [Script.numberOfText, htokens]
  cases h with
  | bare hkind hread hfinal => simp only [hkind, hfinal, hread]
  | signed hsign hkind hread =>
    rcases hsign with ⟨hsign, rfl⟩ | ⟨hsign, rfl⟩
    · simp only [hsign, hkind, hread]
    · simp only [hsign, hkind, hread]
      rfl

/-- Numbers cannot be compared, but whether a text writes one can be evaluated. -/
theorem exists_numberTokens (h : (numberOfText s).isOk) :
    ∃ tokens x, tokenize s = .ok tokens ∧ NumberTokens tokens x ∧ numberOfText s = .ok x := by
  rcases numberOfText_cases s with hnumber | ⟨fault, -, hfault⟩
  · exact hnumber
  · rw [hfault] at h
    cases h

end StreamBot.Script
