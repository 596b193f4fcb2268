import StreamBot.Json.Printer
import StreamBot.Json.Reader
import StreamBot.Proofs.Decimal.Nearest

/-! # Documents survive being written

A number is written as a numeral: digits, perhaps more of them behind a point, perhaps an exponent.  The reader takes a
numeral apart into these again (`number_numeral`), and each of the notations in which decimals are written is a numeral for the
same decimal (`exists_numeral`).  With what is known of the shortest decimal, a finite double is read back from its text
(`number_text`).

Main statement: reading the text of a document gives the document again, apart from numbers that are not
finite, which are written as null (`parse?_render`).  The reader has enough fuel, since the text of a document
is longer than the document is deep; the induction is on the document, with the text behind it left open
(`value_render`).
-/

namespace StreamBot.Json.Reader

open Decimal List

variable {ds rest : List Char} (negative : Bool)

/-! ### Digits -/

/-- A text does not go on with anything that belongs to a number. -/
def Ends (rest : List Char) : Prop := ∀ c ∈ rest.head?, c.isDigit = false ∧ c ∉ ['.', 'e', 'E']

theorem ends_nil : Ends [] := by simp [Ends]

theorem span_digits (hds : ∀ c ∈ ds, c.isDigit) (hrest : ∀ c ∈ rest.head?, c.isDigit = false) :
    (ds ++ rest).takeWhile Char.isDigit = ds ∧ (ds ++ rest).dropWhile Char.isDigit = rest := by
  have hend : rest.takeWhile Char.isDigit = [] ∧ rest.dropWhile Char.isDigit = rest := by
    cases rest with
    | nil => exact ⟨rfl, rfl⟩
    | cons c rest => simp [hrest c rfl]
  rw [takeWhile_append_of_pos hds, dropWhile_append_of_pos hds, hend.1, hend.2, append_nil]
  exact ⟨rfl, rfl⟩

theorem isDigit_toDigits (n : ℕ) : ∀ c ∈ Nat.toDigits 10 n, c.isDigit :=
  fun _ hc => Nat.isDigit_of_mem_toDigits (by norm_num) (by norm_num) hc

theorem isDigit_replicate (n : ℕ) : ∀ c ∈ replicate n '0', c.isDigit := fun _ hc => eq_of_mem_replicate hc ▸ rfl

theorem digitsValue_toDigits (n : ℕ) : digitsValue (Nat.toDigits 10 n) = n :=
  Nat.ofDigitChars_toDigits (by norm_num) (by norm_num)

theorem digitsValue_zeros_append (n : ℕ) (ds : List Char) : digitsValue (replicate n '0' ++ ds) = digitsValue ds := by
  induction n with
  | zero => rfl
  | succ n ih => exact ih

theorem digitsValue_append_zeros (ds : List Char) (n : ℕ) :
    digitsValue (ds ++ replicate n '0') = digitsValue ds * 10 ^ n := by
  induction n with
  | zero => simp
  | succ n ih =>
    have hlast : digitsValue (ds ++ replicate n '0' ++ ['0']) = 10 * digitsValue (ds ++ replicate n '0') :=
      foldl_concat _ _ _ _
    rw [replicate_succ', ← append_assoc, hlast, ih, pow_succ]
    ring

/-! ### Numerals -/

/-- The digits of a numeral, those behind its point, and its exponent. -/
structure Numeral where
  whole : List Char
  decimals : Option (List Char) := none
  power : Option ℤ := none
  digits : ∀ c ∈ whole ++ decimals.getD [], c.isDigit
  nonempty : whole ≠ []

def powerText (power : Option ℤ) : List Char := power.elim [] fun p => (exponentText p).toList

def Numeral.text (n : Numeral) : List Char := n.whole ++ (n.decimals.elim [] ('.' :: ·) ++ powerText n.power)

def Numeral.value (n : Numeral) : Json :=
  if n.decimals.isNone && n.power.isNone then .int (if negative then -digitsValue n.whole else digitsValue n.whole)
  else .float (ofDecimal negative (digitsValue (n.whole ++ n.decimals.getD []))
    (n.power.getD 0 - (n.decimals.getD []).length))

def signText (negative : Bool) : List Char := if negative then ['-'] else []

theorem sign_signText (hds : ∀ c ∈ ds, c.isDigit) (hne : ds ≠ []) :
    sign (signText negative ++ (ds ++ rest)) = (negative, ds ++ rest) := by
  cases negative with
  | true => rfl
  | false =>
    obtain ⟨d, ds, rfl⟩ := exists_cons_of_ne_nil hne
    have hd : d ≠ '-' := by
      rintro rfl
      exact absurd (hds '-' mem_cons_self) (by decide)
    simp [signText, sign, hd]

/-- An exponent as it is written: a sign and digits. -/
theorem exponentText_toList (power : ℤ) : ∃ ds, (∀ c ∈ ds, c.isDigit) ∧ digitsValue ds = power.natAbs ∧
    (exponentText power).toList = 'e' :: (if power < 0 then '-' else '+') :: ds := by
  have hdigits : (toString power.natAbs).toList = Nat.toDigits 10 power.natAbs := Nat.toList_repr
  have hsign : (if power < 0 then "-" else "+").toList = [if power < 0 then '-' else '+'] := by
    split <;> rfl
  rw [exponentText, String.toList_append, String.toList_append, hsign]
  by_cases hshort : (toString power.natAbs).length < 2
  · refine ⟨'0' :: Nat.toDigits 10 power.natAbs, forall_mem_cons.2 ⟨rfl, isDigit_toDigits _⟩, digitsValue_toDigits _, ?_⟩
    rw [if_pos hshort, String.toList_append, hdigits]
    rfl
  · refine ⟨_, isDigit_toDigits _, digitsValue_toDigits _, ?_⟩
    rw [if_neg hshort, hdigits]
    rfl

theorem exponent_powerText (power : Option ℤ) (hrest : Ends rest) : exponent (powerText power ++ rest) = (power, rest) := by
  cases power with
  | none =>
    cases rest with
    | nil => rfl
    | cons c rest =>
      have hc := (hrest c rfl).2
      simp_all [powerText, exponent]
  | some power =>
    obtain ⟨ds, hds, hvalue, htext⟩ := exponentText_toList power
    obtain ⟨htake, hdrop⟩ := span_digits hds fun c hc => (hrest c hc).1
    rw [powerText, Option.elim, htext]
    by_cases hnegative : power < 0 <;>
      simp [exponent, exponentSign, hnegative, htake, hdrop, hvalue, -Nat.cast_natAbs] <;> omega

theorem head_powerText (power : Option ℤ) (hrest : Ends rest) :
    ∀ c ∈ (powerText power ++ rest).head?, c.isDigit = false ∧ c ≠ '.' := by
  cases power with
  | none => exact fun c hc => ⟨(hrest c hc).1, fun heq => (hrest c hc).2 (by simp [heq])⟩
  | some power =>
    obtain ⟨ds, -, -, htext⟩ := exponentText_toList power
    simp [powerText, htext]

/-- A numeral is taken apart when it is read. -/
theorem number_numeral (n : Numeral) (hrest : Ends rest) :
    number (signText negative ++ (n.text ++ rest)) = some (n.value negative, rest) := by
  obtain ⟨whole, decimals, power, hdigits, hne⟩ := n
  obtain ⟨hwhole, hdecimals⟩ := forall_mem_append.1 hdigits
  have hpower := head_powerText power hrest
  have hfraction : fraction (decimals.elim [] ('.' :: ·) ++ (powerText power ++ rest)) = (decimals, powerText power ++ rest) := by
    cases decimals with
    | some ds =>
      obtain ⟨htake, hdrop⟩ := span_digits hdecimals fun c hc => (hpower c hc).1
      simp only [Option.getD] at htake hdrop
      simp [fraction, htake, hdrop]
    | none =>
      generalize powerText power ++ rest = tail at hpower
      cases tail with
      | nil => rfl
      | cons c tail => simp [fraction, (hpower c rfl).2]
  have hhead : ∀ c ∈ (decimals.elim [] ('.' :: ·) ++ (powerText power ++ rest)).head?, c.isDigit = false := by
    cases decimals with
    | some ds => simp
    | none => exact fun c hc => (hpower c hc).1
  rw [Numeral.text, append_assoc, append_assoc, number, sign_signText negative hwhole hne]
  simp only [span_eq_takeWhile_dropWhile, span_digits hwhole hhead, List.isEmpty_iff, hne, if_false, hfraction,
    exponent_powerText power hrest, Numeral.value]
  split <;> rfl

/-! ### Notations -/

theorem Numeral.value_eq {n : Numeral} {digits : ℕ} {exponent : ℤ} (hfloat : ¬(n.decimals.isNone && n.power.isNone))
    (hdigits : digitsValue (n.whole ++ n.decimals.getD []) = digits)
    (hexponent : n.power.getD 0 - (n.decimals.getD []).length = exponent) (negative : Bool) :
    n.value negative = .float (ofDecimal negative digits exponent) := by
  rw [value, if_neg hfloat, hdigits, hexponent]

/-- A decimal is written as a numeral for it. -/
theorem exists_numeral (digits : ℕ) (exponent : ℤ) : ∃ n : Numeral, (decimalText .standard digits exponent).toList = n.text ∧
    ∀ negative, n.value negative = .float (ofDecimal negative digits exponent) := by
  have hdigits := isDigit_toDigits digits
  have hvalue := digitsValue_toDigits digits
  have hne : Nat.toDigits 10 digits ≠ [] := Nat.toDigits_ne_nil
  unfold decimalText
  extract_lets text power point
  have htext : text.toList = Nat.toDigits 10 digits := Nat.toList_repr
  have hpower : power = exponent + (Nat.toDigits 10 digits).length - 1 := by
    rw [← htext, String.length_toList]
  have hpoint : point = power.toNat + 1 := rfl
  clear_value text power point
  generalize Nat.toDigits 10 digits = ds at *
  split
  case isTrue hstyle =>
    split
    case isTrue hexponent =>
      obtain ⟨n, rfl⟩ := Int.eq_ofNat_of_zero_le hexponent
      have hgreatest : power ≤ 15 := hstyle.2
      have hlength := length_pos_of_ne_nil hne
      have hzeros : digitsValue (ds ++ replicate n '0' ++ ['0']) = digits * 10 ^ (n + 1) := by
        rw [append_assoc, ← replicate_succ', digitsValue_append_zeros, hvalue]
      refine ⟨⟨ds ++ replicate n '0', some ['0'], none, ?_, by simp [hne]⟩, by simp [Numeral.text, powerText, zeros, htext],
        fun negative => (Numeral.value_eq (by simp) hzeros rfl negative).trans ?_⟩
      · exact forall_mem_append.2 ⟨forall_mem_append.2 ⟨hdigits, isDigit_replicate n⟩, isDigit_replicate 1⟩
      · rw [ofDecimal, ofDecimal, ← decimalBits_shift digits (show n ≤ 2048 by omega)]
        rfl
    case isFalse hexponent =>
      split
      case isTrue hpositive =>
        refine ⟨⟨ds.take point, some (ds.drop point), none, by simpa using hdigits, by simp [hne, hpoint]⟩,
          by simp [Numeral.text, powerText, htext], Numeral.value_eq (by simp) (by simpa using hvalue) ?_⟩
        simp only [Option.getD, length_drop]
        omega
      case isFalse hnegative =>
        have hzeros := (digitsValue_zeros_append ((-power).toNat - 1 + 1) ds).trans hvalue
        refine ⟨⟨['0'], some (replicate ((-power).toNat - 1) '0' ++ ds), none, ?_, by simp⟩,
          by simp [Numeral.text, powerText, zeros, htext], Numeral.value_eq (by simp) hzeros ?_⟩
        · exact forall_mem_append.2 ⟨isDigit_replicate 1, forall_mem_append.2 ⟨isDigit_replicate _, hdigits⟩⟩
        · simp only [Option.getD, length_append, length_replicate]
          omega
  case isFalse =>
    split
    case h_1 hempty => exact absurd (htext.symm.trans hempty) hne
    case h_2 d hsingle =>
      obtain rfl := htext.symm.trans hsingle
      exact ⟨⟨[d], none, some power, hdigits, by simp⟩, by simp [Numeral.text, powerText],
        Numeral.value_eq (by simp) hvalue (by simp [hpower])⟩
    case h_3 d more _ hmore =>
      obtain rfl := htext.symm.trans hmore
      refine ⟨⟨[d], some more, some power, hdigits, by simp⟩, by simp [Numeral.text, powerText],
        Numeral.value_eq (by simp) hvalue ?_⟩
      simp only [Option.getD, hpower, length_cons]
      omega

theorem number_text {x : Float} {negative : Bool} {m : ℕ} {e : ℤ} (h : Binary.ofFloat x = .finite negative m e)
    (hrest : Ends rest) : number ((text x).toList ++ rest) = some (.float x, rest) := by
  have hsign : (if negative then "-" else "").toList = signText negative := by cases negative <;> rfl
  obtain ⟨digits, exponent, htext, hbits⟩ : ∃ digits exponent, text x = (if negative then "-" else "") ++
      decimalText .standard digits exponent ∧ decimalBits digits exponent = bitsOf m e := by
    rw [text, h]
    obtain ⟨-, ⟨rfl, rfl⟩ | hnormal⟩ := toBits_of_ofFloat h
    · exact ⟨0, 0, rfl, rfl⟩
    · refine ⟨_, _, ?_, shortest_reads hnormal⟩
      dsimp only
      rw [if_neg hnormal.pos.ne']
  obtain ⟨n, hn, hvalue⟩ := exists_numeral digits exponent
  rw [htext, String.toList_append, hsign, hn, append_assoc, number_numeral negative n hrest, hvalue, ofDecimal_eq h hbits]

theorem number_int (n : ℤ) (hrest : Ends rest) : number ((toString n).toList ++ rest) = some (.int n, rest) := by
  have htext : (toString n).toList = signText (decide (n < 0)) ++ (Nat.toDigits 10 n.natAbs ++ []) := by
    rw [append_nil]
    cases n with
    | ofNat n => exact Nat.toList_repr
    | negSucc n =>
      change ("-" ++ (n + 1).repr).toList = _
      rw [String.toList_append, Nat.toList_repr, decide_eq_true (Int.negSucc_lt_zero n)]
      rfl
  have hread := number_numeral (decide (n < 0)) ⟨Nat.toDigits 10 n.natAbs, none, none, by simpa using isDigit_toDigits _,
    Nat.toDigits_ne_nil⟩ hrest
  have hvalue : (if n < 0 then -(n.natAbs : ℤ) else n.natAbs) = n := by
    split <;> omega
  simp only [Numeral.text, powerText, Numeral.value, digitsValue_toDigits, decide_eq_true_eq, hvalue] at hread
  rw [htext, append_assoc]
  exact hread

end StreamBot.Json.Reader

namespace StreamBot.Json

open List

variable (k s : String)

/-! ### What is written -/

mutual

def written : Json → Json
  | float x => if x.isFinite then float x else null
  | arr items => arr (writtenItems items)
  | obj fields => obj (writtenFields fields)
  | null => null
  | bool b => bool b
  | int n => int n
  | str s => str s

def writtenItems : List Json → List Json
  | [] => []
  | j :: rest => written j :: writtenItems rest

def writtenFields : List (String × Json) → List (String × Json)
  | [] => []
  | (k, j) :: rest => (k, written j) :: writtenFields rest

end

namespace Reader

/-! ### Texts -/

theorem hexDigit?_digitChar {d : ℕ} (h : d < 16) : Text.hexDigit? d.digitChar = some d := by
  interval_cases d <;> rfl

theorem unit?_hexDigits4 {n : ℕ} (h : n < 65536) (rest : List Char) :
    unit? ((hexDigits4 n).toList ++ rest) = some (n, rest) := by
  have hd (k : ℕ) : Text.hexDigit? (Nat.digitChar (k % 16)) = some (k % 16) :=
    hexDigit?_digitChar (Nat.mod_lt _ (by norm_num))
  simp [hexDigits4, unit?, hd]
  omega

theorem string_unit (fuel : ℕ) (acc : List Char) {c : Char} (hc : c.toNat < 32) (rest : List Char) :
    string (fuel + 1) acc ('\x5c' :: 'u' :: ((hexDigits4 c.toNat).toList ++ rest)) = string fuel (c :: acc) rest := by
  have hchar : Char.ofNat c.toNat = c := Char.ofNat_toNat c
  rw [string]
  simp only [unit?_hexDigits4 (show c.toNat < 65536 by omega), bind, Option.bind, hchar]
  rw [if_neg (by decide), if_pos trivial]
  split
  · rw [if_neg (by omega)]
  · rfl

theorem string_escapeChar (fuel : ℕ) (acc : List Char) (c : Char) (rest : List Char) :
    string (fuel + 1) acc ((escapeChar c).toList ++ rest) = string fuel (c :: acc) rest := by
  unfold escapeChar
  split_ifs with h₁ h₂ h₃ h₄ h₅ h₆ h₇ h₈
  · subst h₁; rfl
  · subst h₂; rfl
  · subst h₃; rfl
  · subst h₄; rfl
  · subst h₅; rfl
  · subst h₆; rfl
  · subst h₇; rfl
  · rw [String.toList_append]
    exact string_unit fuel acc h₈ rest
  · have htext : c.toString.toList ++ rest = c :: rest := by simp
    rw [htext]
    simp only [string, h₁, h₂, if_false]

theorem escapeChar_length_pos (c : Char) : 0 < (escapeChar c).toList.length := by
  unfold escapeChar
  split_ifs <;> simp

/-- A text behind its opening quote is read back; each character takes fuel only once. -/
theorem string_escaped (s acc rest : List Char) {fuel : ℕ}
    (hfuel : (s.flatMap (fun c => (escapeChar c).toList)).length < fuel) :
    string fuel acc (s.flatMap (fun c => (escapeChar c).toList) ++ '"' :: rest) =
      some (String.ofList (acc.reverse ++ s), rest) := by
  induction s generalizing acc fuel with
  | nil =>
    obtain ⟨fuel, rfl⟩ := Nat.exists_eq_succ_of_ne_zero (by omega : fuel ≠ 0)
    simp [string]
  | cons c s ih =>
    obtain ⟨fuel, rfl⟩ := Nat.exists_eq_succ_of_ne_zero (by omega : fuel ≠ 0)
    have := escapeChar_length_pos c
    rw [flatMap_cons, length_append] at hfuel
    rw [flatMap_cons, append_assoc, string_escapeChar, ih (c :: acc) (by omega)]
    simp

theorem foldl_escapeChar (cs : List Char) (init : String) : (cs.foldl (fun acc c => acc ++ escapeChar c) init).toList =
      init.toList ++ cs.flatMap (fun c => (escapeChar c).toList) := by
  induction cs generalizing init with
  | nil => simp
  | cons c cs ih => rw [foldl_cons, ih, String.toList_append, flatMap_cons, append_assoc]

theorem quoted_toList : (quoted s).toList = '"' :: (s.toList.flatMap (fun c => (escapeChar c).toList) ++ ['"']) := by
  rw [quoted, String.toList_append, String.foldl_eq_foldl_toList, foldl_escapeChar]
  rfl

/-- A text in quotes is read back; the reader has as much fuel as there are characters. -/
theorem string_quoted (rest : List Char) :
    ∃ cs, (quoted s).toList ++ rest = '"' :: cs ∧ string (cs.length + 1) [] cs = some (s, rest) := by
  refine ⟨s.toList.flatMap (fun c => (escapeChar c).toList) ++ '"' :: rest, ?_, ?_⟩
  · rw [quoted_toList]
    simp
  · rw [string_escaped _ _ _ (by rw [length_append]; omega)]
    simp

/-! ### Values by their first characters -/

section

variable {c : Char} {cs rest : List Char} {fuel : ℕ}

theorem skip_cons (h : isSpace c = false) (cs : List Char) : skip (c :: cs) = c :: cs :=
  dropWhile_cons_of_neg (by simp [h])

theorem word_append (w : String) (rest : List Char) : word w (w.toList ++ rest) = some rest := by
  simp [word, ← String.length_toList]

theorem value_null (fuel : ℕ) (rest : List Char) : value (fuel + 1) ("null".toList ++ rest) = some (.null, rest) := by
  have hword := word_append "ull" rest
  simp_all [value, skip_cons, isSpace]

theorem value_bool (b : Bool) (fuel : ℕ) (rest : List Char) :
    value (fuel + 1) ((if b then "true" else "false").toList ++ rest) = some (.bool b, rest) := by
  have hfalse := word_append "alse" rest
  have htrue := word_append "rue" rest
  cases b <;> simp_all [value, skip_cons, isSpace]

theorem value_str (fuel : ℕ) (rest : List Char) :
    value (fuel + 1) ((quoted s).toList ++ rest) = some (.str s, rest) := by
  obtain ⟨cs, htext, hread⟩ := string_quoted s rest
  rw [htext, value, skip_cons rfl]
  simp [hread]

theorem head_of_number (h : number cs ≠ none) : ∃ c ∈ cs.head?, c.isDigit ∨ c = '-' := by
  cases cs with
  | nil => exact absurd rfl h
  | cons c cs =>
    refine ⟨c, rfl, ?_⟩
    by_contra hother
    rw [not_or] at hother
    have hsign : sign (c :: cs) = (false, c :: cs) := by simp [sign, hother.2]
    refine h ?_
    simp [number, hsign, span_eq_takeWhile_dropWhile, takeWhile_cons_of_neg hother.1]

theorem value_of_number {p : Json × List Char} (h : number cs = some p) (fuel : ℕ) : value (fuel + 1) cs = some p := by
  obtain ⟨c, hhead, hc⟩ := head_of_number (h ▸ Option.some_ne_none _)
  obtain ⟨cs, rfl⟩ := head?_eq_some_iff.mp hhead
  have hne (d : Char) (hd : d.isDigit = false) (hminus : d ≠ '-') : c ≠ d := by
    rintro rfl
    simp_all
  have hspace : isSpace c = false := by
    simp [isSpace, hne ' ' rfl (by decide), hne '\n' rfl (by decide), hne '\r' rfl (by decide),
      hne '\t' rfl (by decide)]
  rw [value, skip_cons hspace, ← h]
  simp [hne '\x7b' rfl (by decide), hne '[' rfl (by decide), hne '"' rfl (by decide),
    hne 't' rfl (by decide), hne 'f' rfl (by decide), hne 'n' rfl (by decide)]

theorem value_float (x : Float) (fuel : ℕ) (hrest : Ends rest) :
    value (fuel + 1) ((floatText x).toList ++ rest) = some (written (.float x), rest) := by
  cases h : Decimal.Binary.ofFloat x with
  | finite negative m e =>
    have hfinite : x.isFinite := Decimal.isFinite_iff.mpr ⟨negative, m, e, h⟩
    simp only [floatText, h, written, if_pos hfinite]
    exact value_of_number (number_text h hrest) fuel
  | infinite negative | undefined =>
    have hinfinite : ¬ x.isFinite := by simp [Decimal.isFinite_iff, h]
    simp only [floatText, h, written, if_neg hinfinite]
    exact value_null fuel rest

/-! ### Arrays and objects -/

theorem value_skip (fuel : ℕ) (cs : List Char) : value fuel (skip cs) = value fuel cs := by
  cases fuel with
  | zero => rfl
  | succ fuel => rw [value, value, skip, skip, dropWhile_idempotent]

theorem items_skip (fuel : ℕ) (cs : List Char) : items fuel (skip cs) = items fuel cs := by
  cases fuel with
  | zero => rfl
  | succ fuel => rw [items, items, value_skip]

theorem value_close (fuel : ℕ) (cs tail : List Char) (h : skip cs = ']' :: tail) : value fuel cs = none := by
  cases fuel with
  | zero => rfl
  | succ fuel =>
    rw [value, h]
    rfl

section

variable {j : Json} {js : List Json} {fields : List (String × Json)} {tail : List Char}

theorem items_single (h : value fuel cs = some (j, ']' :: rest)) : items (fuel + 1) cs = some ([j], rest) := by
  simp [items, h, skip_cons, isSpace]

theorem items_cons (h : value fuel cs = some (j, ',' :: tail)) (htail : items fuel tail = some (js, rest)) :
    items (fuel + 1) cs = some (j :: js, rest) := by
  simp [items, h, skip_cons, isSpace, htail]

theorem value_arr (h : items fuel cs = some (js, rest)) : value (fuel + 1) ('[' :: cs) = some (.arr js, rest) := by
  have hopen : ∀ tail, skip cs = ']' :: tail → False := by
    intro tail hclose
    cases fuel with
    | zero => cases h
    | succ fuel =>
      rw [items, value_close fuel cs tail hclose] at h
      cases h
  rw [value, skip_cons rfl]
  -- the array is not empty, by `hopen`
  simp [items_skip, h]

theorem fields_single (h : value fuel cs = some (j, '\x7d' :: rest)) :
    Reader.fields (fuel + 1) ((quoted k).toList ++ ':' :: cs) = some ([(k, j)], rest) := by
  obtain ⟨ds, htext, hread⟩ := string_quoted k (':' :: cs)
  rw [htext, Reader.fields, skip_cons rfl]
  simp [hread, skip_cons, isSpace, h]

theorem fields_cons (h : value fuel cs = some (j, ',' :: tail))
    (htail : Reader.fields fuel tail = some (fields, rest)) :
    Reader.fields (fuel + 1) ((quoted k).toList ++ ':' :: cs) = some ((k, j) :: fields, rest) := by
  obtain ⟨ds, htext, hread⟩ := string_quoted k (':' :: cs)
  rw [htext, Reader.fields, skip_cons rfl]
  simp [hread, skip_cons, isSpace, h, htail]

theorem value_obj (h : Reader.fields fuel ((quoted k).toList ++ cs) = some (fields, rest)) :
    value (fuel + 1) ('\x7b' :: ((quoted k).toList ++ cs)) = some (.obj fields, rest) := by
  obtain ⟨ds, htext, -⟩ := string_quoted k cs
  rw [htext] at h ⊢
  rw [value, skip_cons rfl]
  simp [skip_cons, isSpace, h]

end

end

/-! ### Documents -/

theorem ends_cons {c : Char} (hc : c ∈ [',', ']', '\x7d']) (rest : List Char) : Ends (c :: rest) := by
  simp only [mem_cons, not_mem_nil, or_false] at hc
  rintro _ ⟨⟩
  rcases hc with rfl | rfl | rfl <;> decide

theorem renderItems_cons (j : Json) {js : List Json} (hne : js ≠ []) :
    (renderItems (j :: js)).toList = (render j).toList ++ ',' :: (renderItems js).toList := by
  obtain ⟨k, js, rfl⟩ := exists_cons_of_ne_nil hne
  simp [renderItems]

theorem renderFields_single (j : Json) :
    (renderFields [(k, j)]).toList = (quoted k).toList ++ ':' :: (render j).toList := by
  simp [renderFields]

theorem renderFields_cons (j : Json) {fields : List (String × Json)} (hne : fields ≠ []) :
    (renderFields ((k, j) :: fields)).toList =
      (quoted k).toList ++ ':' :: ((render j).toList ++ ',' :: (renderFields fields).toList) := by
  obtain ⟨field, fields, rfl⟩ := exists_cons_of_ne_nil hne
  simp [renderFields]

theorem renderFields_quoted {fields : List (String × Json)} (hne : fields ≠ []) :
    ∃ k cs, (renderFields fields).toList = (quoted k).toList ++ cs := by
  obtain ⟨⟨k, j⟩, fields, rfl⟩ := exists_cons_of_ne_nil hne
  by_cases hlast : fields = []
  · subst hlast
    exact ⟨k, _, renderFields_single k j⟩
  · exact ⟨k, _, renderFields_cons k j hlast⟩

mutual

theorem value_render (j : Json) (fuel : ℕ) (rest : List Char) (hfuel : (render j).toList.length < fuel)
    (hrest : Ends rest) : value fuel ((render j).toList ++ rest) = some (written j, rest) := by
  obtain ⟨fuel, rfl⟩ := Nat.exists_eq_succ_of_ne_zero (by omega : fuel ≠ 0)
  cases j with
  | null => rw [render, written, value_null]
  | bool b => rw [render, written, value_bool]
  | int n => rw [render, written, value_of_number (number_int n hrest)]
  | float x => rw [render, value_float x fuel hrest]
  | str s => rw [render, written, value_str]
  | arr js =>
    by_cases hne : js = []
    · subst hne
      rfl
    · have htext : (render (.arr js)).toList = '[' :: ((renderItems js).toList ++ [']']) := by
        simp [render]
      rw [htext, length_cons, length_append, length_singleton] at hfuel
      have hread := items_render js hne fuel rest (by omega)
      simpa [htext, written] using value_arr hread
  | obj fields =>
    by_cases hne : fields = []
    · subst hne
      rfl
    · have htext : (render (.obj fields)).toList = '\x7b' :: ((renderFields fields).toList ++ ['\x7d']) := by
        simp [render]
      rw [htext, length_cons, length_append, length_singleton] at hfuel
      have hread := fields_render fields hne fuel rest (by omega)
      obtain ⟨k, cs, hquoted⟩ := renderFields_quoted hne
      rw [hquoted, append_assoc] at hread
      simpa [htext, hquoted, written] using value_obj k hread

theorem items_render (js : List Json) (hne : js ≠ []) (fuel : ℕ) (rest : List Char)
    (hfuel : (renderItems js).toList.length + 1 < fuel) :
    items fuel ((renderItems js).toList ++ ']' :: rest) = some (writtenItems js, rest) := by
  obtain ⟨fuel, rfl⟩ := Nat.exists_eq_succ_of_ne_zero (by omega : fuel ≠ 0)
  cases js with
  | nil => exact absurd rfl hne
  | cons j js =>
    by_cases hlast : js = []
    · subst hlast
      rw [renderItems] at hfuel ⊢
      rw [items_single (value_render j fuel _ (by omega) (ends_cons (by decide) _))]
      rfl
    · rw [renderItems_cons j hlast, length_append, length_cons] at hfuel
      have hvalue := value_render j fuel (',' :: ((renderItems js).toList ++ ']' :: rest)) (by omega)
        (ends_cons (by decide) _)
      have htail := items_render js hlast fuel rest (by omega)
      simpa [renderItems_cons j hlast, writtenItems] using items_cons hvalue htail

theorem fields_render (fields : List (String × Json)) (hne : fields ≠ []) (fuel : ℕ) (rest : List Char)
    (hfuel : (renderFields fields).toList.length + 1 < fuel) :
    Reader.fields fuel ((renderFields fields).toList ++ '\x7d' :: rest) = some (writtenFields fields, rest) := by
  obtain ⟨fuel, rfl⟩ := Nat.exists_eq_succ_of_ne_zero (by omega : fuel ≠ 0)
  cases fields with
  | nil => exact absurd rfl hne
  | cons field fields =>
    obtain ⟨k, j⟩ := field
    by_cases hlast : fields = []
    · subst hlast
      rw [renderFields_single, length_append, length_cons] at hfuel
      have hvalue := value_render j fuel ('\x7d' :: rest) (by omega) (ends_cons (by decide) _)
      simpa [renderFields_single, writtenFields] using fields_single k hvalue
    · rw [renderFields_cons k j hlast, length_append, length_cons, length_append, length_cons] at hfuel
      have hvalue := value_render j fuel (',' :: ((renderFields fields).toList ++ '\x7d' :: rest))
        (by omega) (ends_cons (by decide) _)
      have htail := fields_render fields hlast fuel rest (by omega)
      simpa [renderFields_cons k j hlast, writtenFields] using fields_cons k hvalue htail

end

end Reader

theorem parse?_render (j : Json) : parse? (render j) = some (written j) := by
  have hread := Reader.value_render j ((render j).toList.length + 1) [] (Nat.lt_succ_self _)
    Reader.ends_nil
  rw [append_nil] at hread
  rw [parse?, hread]
  rfl

end StreamBot.Json
