import StreamBot.Proofs.Script.Computation

/-! # Cutting texts and putting them together

A text is cut at the occurrences of a delimiter, which are looked for from left to right and do not overlap.  Whatever they
are, the pieces with the delimiter between them are the text again (`intercalate_piecesFrom`).  The pieces of a text that was
put together are those it was made of, if the delimiter is a single character that occurs in none of them (`splitOn_join`).

Main statement: `split` and `join` undo each other in scripts (`split_join`).
-/

namespace StreamBot.Text

open List

variable {d : List Char} {c : Char}

theorem piecesFrom_ne_nil (d : List Char) (skip : ℕ) (cs : List Char) : piecesFrom d skip cs ≠ [] := by
  fun_induction piecesFrom d skip cs with
  | case1 => simp
  | case2 skip _ rest ih => exact ih
  | case3 | case4 | case5 => simp

theorem glue_eq_intercalate (d : List Char) (pieces : List (List Char)) : glue d pieces = d.intercalate pieces := by
  fun_induction glue d pieces with
  | case1 => rfl
  | case2 piece => simp
  | case3 piece rest hsome ih => rw [ih, intercalate_cons_of_ne_nil hsome]

/-- **A text is put together again from its pieces**, less what belongs to an occurrence before them. -/
theorem intercalate_piecesFrom (hd : d ≠ []) (skip : ℕ) (cs : List Char) :
    d.intercalate (piecesFrom d skip cs) = cs.drop skip := by
  fun_induction piecesFrom d skip cs with
  | case1 => simp
  | case2 skip _ rest ih => exact ih
  | case3 c rest hprefix ih =>
    obtain ⟨tail, htail⟩ := isPrefixOf_iff_prefix.1 hprefix
    obtain ⟨first, more, rfl⟩ := exists_cons_of_ne_nil hd
    obtain ⟨rfl, rfl⟩ := cons.inj htail
    rw [intercalate_cons_of_ne_nil (piecesFrom_ne_nil _ _ _), ih]
    simp
  | case4 c rest _ hnil => exact absurd hnil (piecesFrom_ne_nil _ _ _)
  | case5 c rest _ piece more hpieces ih =>
    rw [intercalate_cons_cons_left, ← hpieces, ih]
    rfl

theorem pieces_singleton (c : Char) (cs : List Char) : Text.pieces [c] cs = cs.splitOn c := by
  rw [Text.pieces]
  induction cs with
  | nil => rfl
  | cons a cs ih =>
    rw [splitOn_cons_eq_if_modifyHead, ← ih, piecesFrom]
    by_cases h : a = c
    · simp [h]
    · obtain ⟨piece, more, hpieces⟩ := exists_cons_of_ne_nil (piecesFrom_ne_nil [c] 0 cs)
      simp [h, Ne.symm h, hpieces]

theorem join_splitOn {s d : String} (h : d ≠ "") : join d (splitOn s d) = s := by
  have hd : d.toList ≠ [] := fun hnil => h (String.toList_eq_nil_iff.1 hnil)
  rw [join, splitOn, map_map, String.toList_comp_ofList, map_id, glue_eq_intercalate, Text.pieces, intercalate_piecesFrom hd]
  exact String.ofList_toList

theorem splitOn_join {parts : List String} (hsome : parts ≠ []) (h : ∀ part ∈ parts, c ∉ part.toList) :
    splitOn (join (.singleton c) parts) (.singleton c) = parts := by
  have hpieces : ∀ piece ∈ parts.map String.toList, c ∉ piece := by simpa using h
  rw [splitOn, join, String.toList_ofList, String.toList_singleton, glue_eq_intercalate, pieces_singleton,
    splitOn_intercalate c hpieces (by simpa using hsome)]
  simp

end StreamBot.Text

namespace StreamBot.Script

open List
open Expr (split join stringLiteral)

variable {σ : Type} {h : Host σ} {f g : Frame} {t u : σ} {e : Expr} {s d : String}

theorem textsOf_strings (parts : List String) : textsOf (parts.map .string) = .ok parts := by
  induction parts with
  | nil => rfl
  | cons part parts ih =>
    rw [map_cons, textsOf, ih]
    rfl

theorem split_eval (he : e.eval h f t = (.ok (.string s, g), u)) (hd : d ≠ "") :
    (split e (some (stringLiteral d))).eval h f t = (.ok (.list .string ((Text.splitOn s d).map .string), g), u) := by
  have hsplit : splitText s d = .ok (.list .string ((Text.splitOn s d).map .string)) := by
    simp [splitText, String.isEmpty_iff, hd]
  refine (Eval.bind_of_ok he _).trans ?_
  show Eval.ofExcept (splitText s d) g u = _
  rw [hsplit]
  rfl

theorem join_eval {parts : List String} (he : e.eval h f t = (.ok (.list .string (parts.map .string), g), u)) :
    (join e (some (stringLiteral d))).eval h f t = (.ok (.string (Text.join d parts), g), u) := by
  refine (Eval.bind_of_ok he _).trans ?_
  show (Eval.ofExcept (textsOf (parts.map .string)) >>= _) g u = _
  rw [textsOf_strings]
  rfl

/-- **`split` and `join` undo each other.**  A text that is cut at a delimiter that is not empty and put together with it is
the same text; a list of texts that is not empty, put together with a character that occurs in none of them and cut there, is
the same list.  Without a delimiter texts are cut at single blanks and put together with nothing between them. -/
theorem split_join (h : Host σ) (f : Frame) (t : σ) (e : Expr) :
    (∀ s g u d, e.eval h f t = (.ok (.string s, g), u) → d ≠ "" →
      (join (split e (some (stringLiteral d))) (some (stringLiteral d))).eval h f t = (.ok (.string s, g), u)) ∧
    (∀ parts g u c, e.eval h f t = (.ok (.list .string (parts.map .string), g), u) → parts ≠ [] →
      (∀ part ∈ parts, c ∉ part.toList) →
      (split (join e (some (stringLiteral (.singleton c)))) (some (stringLiteral (.singleton c)))).eval h f t =
        (.ok (.list .string (parts.map .string), g), u)) ∧
    (split e none).eval h = (split e (some (stringLiteral " "))).eval h ∧
    (join e none).eval h = (join e (some (stringLiteral ""))).eval h := by
  refine ⟨fun s g u d he hd => ?_, fun parts g u c he hsome hfree => ?_, rfl, rfl⟩
  · rw [join_eval (split_eval he hd), Text.join_splitOn hd]
  · have hc : String.singleton c ≠ "" := by simp
    rw [split_eval (join_eval he) hc, Text.splitOn_join hsome hfree]

end StreamBot.Script
