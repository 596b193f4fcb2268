import Mathlib.Data.List.DropRight
import StreamBot.Text.Lines

/-! # Trimming

What is left when all that has a property is taken away from both ends of a list has it at neither end (`ends_stripped`), and
a list that is like this is what is left when anything with the property stands around it (`Ends.stripped`).  This holds of the
blanks around a text and of the blank lines around its lines.
-/

namespace StreamBot.Text

open List

variable {α : Type} {p : α → Bool} {l xs ys : List α}

/-- Neither the first nor the last element has the property. -/
def Ends (p : α → Bool) (l : List α) : Prop := (∀ a ∈ l.head?, ¬ p a) ∧ ∀ a ∈ l.getLast?, ¬ p a

theorem ends_stripped (p : α → Bool) (l : List α) : Ends p ((l.dropWhile p).rdropWhile p) := by
  refine ⟨fun a ha => ?_, fun a ha => ?_⟩
  · obtain ⟨rest, hrest⟩ := head?_eq_some_iff.1 ha
    obtain ⟨behind, hbehind⟩ := rdropWhile_prefix p (l.dropWhile p)
    rw [hrest] at hbehind
    have hfirst := head_dropWhile_not p (hbehind ▸ cons_ne_nil _ _ : l.dropWhile p ≠ [])
    simpa [← hbehind] using hfirst
  · obtain ⟨hne, rfl⟩ := mem_getLast?_eq_getLast ha
    exact rdropWhile_last_not p _ hne

theorem dropWhile_append_of_head (hxs : ∀ a ∈ xs, p a) (hl : ∀ a ∈ l.head?, ¬ p a) : (xs ++ l).dropWhile p = l := by
  rw [dropWhile_append_of_pos hxs]
  cases l with
  | nil => rfl
  | cons a l => exact dropWhile_cons_of_neg (hl a rfl)

theorem Ends.stripped (h : Ends p l) (hxs : ∀ a ∈ xs, p a) (hys : ∀ a ∈ ys, p a) :
    ((xs ++ l ++ ys).dropWhile p).rdropWhile p = l := by
  have hend : (l ++ ys).rdropWhile p = l := by
    rw [rdropWhile, reverse_append, dropWhile_append_of_head (by simpa using hys) (by simpa using h.2), reverse_reverse]
  cases l with
  | nil =>
    have hall : (xs ++ [] ++ ys).dropWhile p = [] := by
      rw [append_nil, dropWhile_eq_nil_iff, forall_mem_append]
      exact ⟨hxs, hys⟩
    rw [hall, rdropWhile_nil]
  | cons a l => rw [append_assoc, dropWhile_append_of_head hxs (by simpa using h.1), hend]

theorem Ends.stripped_eq (h : Ends p l) : (l.dropWhile p).rdropWhile p = l := by
  have hsame := h.stripped (forall_mem_nil _) (forall_mem_nil _)
  rwa [nil_append, append_nil] at hsame

theorem trim_sublist (cs : List Char) : trim cs <+ cs :=
  ( rdropWhile_prefix isBlank _).sublist.trans (dropWhile_sublist _)

end StreamBot.Text
