import StreamBot.Script.Token

/-! # Where a span lies

The lines of a source text, put together, are the text (`flatten_linesWithEnds`), so each character has one place in them
(`Position.Marks`).  Main statement: a range begins at the place of the first character of its span and ends just behind
that of the last one, and ranges are ordered like the spans they belong to (`range_marks`).
-/

namespace StreamBot

open List

theorem Text.flatten_linesWithEnds (source : List Char) : (linesWithEnds source).flatten = source := by
  rw [linesWithEnds]
  fun_induction lineParts source with
  | case1 => rfl
  | case2 rest ih | case3 c rest _ hend ih => simpa using ih
  | case4 c rest _ hend hparts ih | case5 c rest _ hend line ending more hparts ih =>
    rw [hparts] at ih
    simpa using ih

namespace Script

variable {source : List Char} {s : Span} {p q : Position} {i j : Nat}

/-- The place of a character: the line that holds it, and its column there. -/
def Position.Marks (source : List Char) (i : Nat) (p : Position) : Prop :=
  ∃ before row after, Text.linesWithEnds source = before ++ row :: after ∧ p.line = before.length + 1 ∧
    1 ≤ p.column ∧ before.flatten.length + p.column = i + 1 ∧ p.column ≤ row.length ∧ row[p.column - 1]? = source[i]?

/-- A place comes before another one when a text is read. -/
def Position.Precedes (p q : Position) : Prop := p.line < q.line ∨ p.line = q.line ∧ p.column < q.column

/-- The place just behind a character. -/
def Position.next (p : Position) : Position := { p with column := p.column + 1 }

/-- A later character is in a later line, or as many columns further on in the same one. -/
theorem Position.Marks.later (hp : p.Marks source i) (hq : q.Marks source j) (hij : i ≤ j) :
    p.line < q.line ∨ p.line = q.line ∧ q.column = p.column + (j - i) := by
  obtain ⟨before, line, after, hlines, hline, hfirst, hcolumn, -, -⟩ := hp
  obtain ⟨before', line', after', hlines', hline', -, hcolumn', hlength', -⟩ := hq
  have hsame := hlines.symm.trans hlines'
  rcases Nat.lt_trichotomy before.length before'.length with hlt | heq | hgt
  · omega
  · obtain ⟨rfl, -⟩ := append_inj hsame heq
    omega
  · -- the line of the later character would lie among those before the earlier one
    have hprefix : before' ++ [line'] <+: before := by
      have hlater : before' ++ [line'] <+: before ++ line :: after := by
        rw [hsame]
        exact ⟨after', by simp⟩
      refine prefix_of_prefix_length_le hlater (prefix_append _ _) ?_
      rw [length_append]
      exact hgt
    obtain ⟨more, rfl⟩ := hprefix
    simp only [flatten_append, length_append, flatten_singleton] at hcolumn
    omega

namespace Span

theorem startIn_take_reach (hlength : 1 ≤ s.length) (before line : Nat) (lines : List (List Char)) :
    s.startIn before line (lines.take (s.reach before lines)) = s.startIn before line lines := by
  induction lines generalizing before line with
  | nil => rfl
  | cons l rest ih =>
    rw [reach]
    split
    · have hstart : s.offset < before + l.length := by omega
      rw [take_succ_cons, startIn, startIn, if_pos hstart, if_pos hstart]
    · rw [Nat.add_comm, take_succ_cons, startIn, startIn, ih]

/-- The start is found in the first line that reaches beyond it. -/
theorem exists_startIn (lines : List (List Char)) (before line : Nat) (hbefore : before ≤ s.offset)
    (hinside : s.offset < before + lines.flatten.length) :
    ∃ passed l rest, lines = passed ++ l :: rest ∧ before + passed.flatten.length ≤ s.offset ∧
      s.offset < before + passed.flatten.length + l.length ∧
      s.startIn before line lines = ⟨line + passed.length + 1, s.offset - (before + passed.flatten.length) + 1⟩ := by
  induction lines generalizing before line with
  | nil => exact absurd hinside (by simpa using hbefore)
  | cons l rest ih =>
    rw [startIn]
    split
    case isTrue hhere => exact ⟨[], l, rest, rfl, hbefore, hhere, rfl⟩
    case isFalse hbeyond =>
      rw [flatten_cons, length_append, ← Nat.add_assoc] at hinside
      obtain ⟨passed, l', rest', rfl, hreached, hhere, hstart⟩ :=
        ih (before + l.length) (line + 1) (Nat.le_of_not_lt hbeyond) hinside
      refine ⟨l :: passed, l', rest', rfl, ?_⟩
      rw [hstart, flatten_cons, length_append, ← Nat.add_assoc]
      exact ⟨hreached, hhere, by simp; omega⟩

theorem marks_startIn (h : s.offset < source.length) :
    (s.startIn 0 0 (Text.linesWithEnds source)).Marks source s.offset := by
  rw [← Text.flatten_linesWithEnds source, ← Nat.zero_add (flatten _).length] at h
  obtain ⟨passed, l, rest, hlines, hpassed, hhere, hstart⟩ := exists_startIn _ 0 0 (Nat.zero_le _) h
  rw [Nat.zero_add] at hpassed hhere
  rw [Nat.zero_add, Nat.zero_add] at hstart
  refine ⟨passed, l, rest, hlines, ?_⟩
  have hsource : source = passed.flatten ++ (l ++ rest.flatten) := by
    rw [← Text.flatten_linesWithEnds source, hlines, flatten_append, flatten_cons]
  rw [hstart]
  dsimp only
  refine ⟨by omega, by omega, by omega, by omega, ?_⟩
  rw [hsource, getElem?_append_right hpassed, getElem?_append_left (by omega), Nat.add_sub_cancel]

/-- The end is found like the start of the last character. -/
theorem stopIn_eq (hlength : 1 ≤ s.length) (lines : List (List Char)) (before line : Nat)
    (hbefore : before < s.offset + s.length) (hinside : s.offset + s.length ≤ before + lines.flatten.length) :
    s.stopIn before line lines = (startIn ⟨s.offset + s.length - 1, 1⟩ before line lines).next := by
  induction lines generalizing before line with
  | nil => exact absurd hinside (by simpa using hbefore)
  | cons l rest ih =>
    rw [flatten_cons, length_append, ← Nat.add_assoc] at hinside
    rw [stopIn, startIn]
    dsimp only
    by_cases hhere : s.offset + s.length ≤ before + l.length
    · rw [if_pos hhere, if_pos (by omega), Position.next]
      simp only [Position.mk.injEq, true_and]
      omega
    · rw [if_neg hhere, if_neg (by omega)]
      exact ih _ _ (by omega) hinside

theorem range_eq (hlength : 1 ≤ s.length) (hinside : s.offset + s.length ≤ source.length) :
    ∃ p q : Position, p.Marks source s.offset ∧ q.Marks source (s.offset + s.length - 1) ∧
      s.range source = ⟨p, q.next⟩ := by
  have hlast : s.offset + s.length - 1 < source.length := by omega
  refine ⟨_, _, marks_startIn (by omega), marks_startIn (s := ⟨_, 1⟩) hlast, ?_⟩
  rw [range]
  rw [startIn_take_reach hlength, stopIn_eq hlength _ _ _ (by omega)]
  rw [Text.flatten_linesWithEnds]
  omega

/-- A span that lies in the text begins at the place of its first character and ends just behind that of its last one.
Its start comes before its end, and its end does not come behind the start of a span that lies behind it. -/
theorem range_marks (source : List Char) (s : Span) (hlength : 1 ≤ s.length)
    (hinside : s.offset + s.length ≤ source.length) :
    (∃ p q : Position, p.Marks source s.offset ∧ q.Marks source (s.offset + s.length - 1) ∧
      s.range source = ⟨p, q.next⟩) ∧
    (s.range source).start.Precedes (s.range source).stop ∧
    ∀ t : Span, 1 ≤ t.length → t.offset + t.length ≤ source.length → s.offset + s.length ≤ t.offset →
      ¬ (t.range source).start.Precedes (s.range source).stop := by
  obtain ⟨p, q, hp, hq, hrange⟩ := range_eq hlength hinside
  refine ⟨⟨p, q, hp, hq, hrange⟩, ?_, fun t hlength' hinside' hbehind => ?_⟩
  · rw [hrange]
    have hlater := hp.later hq (by omega)
    simp only [Position.Precedes, Position.next]
    omega
  · obtain ⟨p', q', hp', -, hrange'⟩ := range_eq hlength' hinside'
    rw [hrange, hrange']
    have hlater := hq.later hp' (by omega)
    simp only [Position.Precedes, Position.next]
    omega

/-- A literal over two lines whose ends are a carriage return and a line feed. -/
theorem range_marks_literal :
    (range "a='b\r\nc';".toList ⟨2, 6⟩).start.Precedes (range "a='b\r\nc';".toList ⟨2, 6⟩).stop ∧
      range "a='b\r\nc';".toList ⟨2, 6⟩ = ⟨⟨1, 3⟩, ⟨2, 3⟩⟩ :=
  ⟨(range_marks "a='b\r\nc';".toList ⟨2, 6⟩ (by decide) (by decide)).2.1, by decide +kernel⟩

end Span
end Script
end StreamBot
