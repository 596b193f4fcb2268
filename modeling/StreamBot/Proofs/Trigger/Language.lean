import Mathlib.Computability.Language
import Mathlib.Data.Finset.Card
import Mathlib.Data.List.Forall2
import Mathlib.Data.List.ProdSigma
import StreamBot.Trigger.Name

/-! # What a pattern means

Patterns are read in one form (`Pattern.WellFormed`): alternatives stand at the top or in parentheses, and sets of
characters hold code points.  So a pattern that was read is written like itself (`Pattern.WellFormed.alike_self`).

The texts that a pattern stands for (`Pattern.language`), said without regard to how they are looked for.  A text is a
list of code points.  Splitting a pattern into its first characters and what follows each of them is right
(`nil_mem_language`, `cons_mem_language`), so `matches` finds out whether a text is one of the pattern's
(`matches_iff`).

Following a text through a pattern meets few patterns, no more than its size (`rests`).  So the search for a text that
two patterns have in common ends in time (`meets_iff`): when it has found none, it has seen all pairs that it can come to.
-/

namespace StreamBot.Trigger

open List
open Text

variable {interval : Nat × Nat} {set : CodePoints} {cs rest : List Char} {p : Pattern}

/-! ### Sets of characters -/

/-- No interval of the set is empty or goes beyond the greatest code point. -/
def Ordered (set : CodePoints) : Prop := ∀ interval ∈ set, interval.1 ≤ interval.2 ∧ interval.2 ≤ lastCodePoint

instance (set : CodePoints) : Decidable (Ordered set) := inferInstanceAs (Decidable (∀ _ ∈ set, _))

@[simp]
theorem ordered_nil : Ordered [] := fun _ h => absurd h not_mem_nil

@[simp]
theorem ordered_cons : Ordered (interval :: set) ↔ (interval.1 ≤ interval.2 ∧ interval.2 ≤ lastCodePoint) ∧ Ordered set :=
  forall_mem_cons

@[simp]
theorem toNat_le_lastCodePoint (c : Char) : c.toNat ≤ lastCodePoint := by
  have hvalid : c.toNat.isValidChar := c.valid
  rcases hvalid with h | h <;> simp only [lastCodePoint] <;> omega

@[simp]
theorem ordered_oneChar (c : Char) : Ordered (oneChar c) := by
  simp [oneChar]

theorem ordered_joinInterval (hinterval : interval.1 ≤ interval.2 ∧ interval.2 ≤ lastCodePoint) (hset : Ordered set) :
    Ordered (joinInterval interval set) := by
  induction set generalizing interval with
  | nil => simpa [joinInterval] using hinterval
  | cons head rest ih =>
    obtain ⟨hhead, hrest⟩ := ordered_cons.1 hset
    rw [joinInterval]
    split
    · exact ih (by omega) hrest
    · exact ordered_cons.2 ⟨hinterval, hset⟩

theorem ordered_addInterval (hinterval : interval.1 ≤ interval.2 ∧ interval.2 ≤ lastCodePoint) (hset : Ordered set) :
    Ordered (addInterval interval set) := by
  induction set with
  | nil => simpa [addInterval] using hinterval
  | cons head rest ih =>
    obtain ⟨hhead, hrest⟩ := ordered_cons.1 hset
    rw [addInterval]
    split
    · exact ordered_cons.2 ⟨hhead, ih hrest⟩
    · exact ordered_joinInterval hinterval hset

theorem ordered_charSet {intervals : List (Nat × Nat)} (h : Ordered intervals) : Ordered (charSet intervals) := by
  suffices hfold : ∀ set, Ordered set → Ordered (intervals.foldl (fun set i => addInterval i set) set) from
    hfold [] ordered_nil
  induction intervals with
  | nil => exact fun set hset => hset
  | cons interval rest ih =>
    intro set hset
    obtain ⟨hinterval, hrest⟩ := ordered_cons.1 h
    exact ih hrest _ (ordered_addInterval hinterval hset)

theorem ordered_complementFrom (start : Nat) (h : Ordered set) : Ordered (complementFrom start set) := by
  induction set generalizing start with
  | nil =>
    rw [complementFrom]
    split
    · simpa using ‹start ≤ lastCodePoint›
    · exact ordered_nil
  | cons head rest ih =>
    obtain ⟨hhead, hrest⟩ := ordered_cons.1 h
    rw [complementFrom]
    split
    · exact ordered_cons.2 ⟨by omega, ih _ hrest⟩
    · exact ih _ hrest

theorem ordered_complement (h : Ordered set) : Ordered (complement set) :=
  ordered_complementFrom 0 h

/-! ### The form of patterns that are read -/

namespace Pattern

/-- A pattern as it is read: alternatives stand at the top or in parentheses, intervals hold code points, and no
repetition has a bound below the other. -/
inductive WellFormed : Pattern → Prop where
  | empty : WellFormed .empty
  | chars {set : CodePoints} (ordered : Ordered set) : WellFormed (.chars set)
  | group {inside : Pattern} (formed : WellFormed inside) : WellFormed (.group inside)
  | repeated {part : Pattern} {least : Nat} {most : Option Nat} (formed : WellFormed part)
      (single : part.branches = [part]) (bounded : ∀ m ∈ most, least ≤ m) : WellFormed (.repeated part least most)
  | seq {first second : Pattern} (formed : WellFormed first) (formed' : WellFormed second)
      (single : first.branches = [first]) (single' : second.branches = [second]) : WellFormed (.seq first second)
  | alt {left right : Pattern} (formed : WellFormed left) (formed' : WellFormed right) : WellFormed (.alt left right)

/-- What may stand in a row: a pattern of one alternative. -/
structure Part (p : Pattern) : Prop where
  formed : p.WellFormed
  single : p.branches = [p]

end Pattern

namespace Parser

open Pattern

theorem lt_of_hexDigit? {c : Char} {n : Nat} (h : hexDigit? c = some n) : n < 16 := by
  simp only [hexDigit?, Char.isDigit, Bool.and_eq_true, decide_eq_true_eq, Char.le_def, UInt32.le_iff_toNat_le] at h
  split at h
  · rename_i hdigit
    change 48 ≤ c.toNat ∧ c.toNat ≤ 57 at hdigit
    cases h
    omega
  split at h
  · rename_i hsmall
    change 97 ≤ c.toNat ∧ c.toNat ≤ 102 at hsmall
    cases h
    omega
  split at h
  · rename_i hcapital
    change 65 ≤ c.toNat ∧ c.toNat ≤ 70 at hcapital
    cases h
    omega
  · cases h

theorem ordered_of_escape (h : escape cs = some (set, rest)) : Ordered set := by
  unfold escape at h
  split at h
  case h_1 => cases h
  case h_13 =>
    simp only [Option.bind_eq_bind, Option.bind_eq_some_iff] at h
    obtain ⟨a, ha, b, hb, h⟩ := h
    cases h
    have := lt_of_hexDigit? ha
    have := lt_of_hexDigit? hb
    refine ordered_cons.2 ⟨⟨Nat.le_refl _, ?_⟩, ordered_nil⟩
    simp only [lastCodePoint]
    omega
  case h_14 =>
    split at h <;> cases h
    exact ordered_oneChar _
  all_goals
    cases h
    decide

theorem ordered_of_member (h : member cs = some (set, rest)) : Ordered set := by
  unfold member at h
  split at h
  · cases h
  · exact ordered_of_escape h
  · split at h <;> cases h
    exact ordered_oneChar _

theorem ordered_of_range (h : range cs = some (set, rest)) : Ordered set := by
  unfold range at h
  split at h
  · rename_i hmember
    split at h
    · rename_i hlast
      split at h <;> cases h
      · have hbounds := (ordered_cons.1 (ordered_of_member hlast)).1
        exact ordered_cons.2 ⟨⟨‹_ ≤ _›, hbounds.2⟩, ordered_nil⟩
      · exact ordered_of_member hmember
    · cases h
      exact ordered_of_member hmember
  · exact ordered_of_member h

theorem ordered_of_members {fuel : Nat} (h : members fuel cs = some (set, rest)) : Ordered set := by
  fun_induction members fuel cs generalizing set rest with
  | case1 => cases h
  | case2 =>
    cases h
    exact ordered_nil
  | case3 fuel cs hcs ih =>
    simp only [Option.bind_eq_bind, Option.bind_eq_some_iff] at h
    obtain ⟨⟨one, behind⟩, hone, ⟨more, last⟩, hmore, h⟩ := h
    cases h
    exact forall_mem_append.2 ⟨ordered_of_range hone, ih _ hmore⟩

theorem ordered_of_character (h : character cs = some (set, rest)) : Ordered set := by
  unfold character at h
  split at h
  case h_1 => cases h
  case h_2 =>
    cases h
    exact ordered_complement ordered_nil
  case h_3 => exact ordered_of_escape h
  case h_4 =>
    simp only [Option.bind_eq_bind, Option.bind_eq_some_iff] at h
    obtain ⟨⟨inside, after⟩, hinside, h⟩ := h
    cases h
    exact ordered_complement (ordered_charSet (ordered_of_members hinside))
  case h_5 =>
    simp only [Option.bind_eq_bind, Option.bind_eq_some_iff] at h
    obtain ⟨⟨inside, after⟩, hinside, h⟩ := h
    cases h
    exact ordered_charSet (ordered_of_members hinside)
  case h_6 =>
    split at h <;> cases h
    exact ordered_oneChar _

theorem le_of_repetitions (cs : List Char) : ∀ m ∈ (repetitions cs).2.1, (repetitions cs).1 ≤ m := by
  unfold repetitions
  split
  case h_4 =>
    split
    · simp
    · simp
    · split
      · split
        · simpa using ‹_ ≤ _›
        · simp
      · simp
    · simp
  all_goals simp

theorem part_times (h : Part p) {least : Nat} {most : Option Nat} (hbounded : ∀ m ∈ most, least ≤ m) :
    Part (times p least most) := by
  rw [times]
  split
  · exact h
  · exact ⟨.repeated h.formed h.single hbounded, rfl⟩

theorem part_row {parts : List Pattern} (h : ∀ p ∈ parts, Part p) : Part (row parts) := by
  induction parts with
  | nil => exact ⟨.empty, rfl⟩
  | cons p rest ih =>
    obtain ⟨hp, hrest⟩ := forall_mem_cons.1 h
    cases rest with
    | nil => exact hp
    | cons q rest =>
      have hrow := ih hrest
      exact ⟨.seq hp.formed hrow.formed hp.single hrow.single, rfl⟩

theorem part_of_closed {r : Pattern × List Char} (hr : r.1.WellFormed) (h : closed r = some (p, rest)) : Part p := by
  unfold closed at h
  split at h <;> cases h
  exact ⟨.group hr, rfl⟩

theorem part_of_part {inside : List Char → Pattern × List Char} (hinside : ∀ cs, (inside cs).1.WellFormed)
    (h : part inside cs = some (p, rest)) : Part p := by
  unfold part at h
  split at h
  · exact part_of_closed (hinside _) h
  · exact part_of_closed (hinside _) h
  · obtain ⟨⟨set, rest⟩, hset, h⟩ := Option.map_eq_some_iff.1 h
    cases h
    exact ⟨.chars (ordered_of_character hset), rfl⟩

theorem wellFormed_go (fuel : Nat) (parts : List Pattern) (cs : List Char) (hparts : ∀ p ∈ parts, Part p) :
    (alternatives.go fuel parts cs).1.WellFormed := by
  induction fuel generalizing parts cs with
  | zero => exact (part_row (by simpa using hparts)).formed
  | succ fuel ih =>
    have hinside (cs : List Char) : (alternatives.go fuel [] cs).1.WellFormed :=
      ih [] cs (fun _ h => absurd h not_mem_nil)
    unfold alternatives.go
    split
    · rename_i hpart
      have hp := part_of_part hinside hpart
      exact ih _ _ (forall_mem_cons.2 ⟨part_times hp (le_of_repetitions _), hparts⟩)
    · have hrow : Part (row parts.reverse) := part_row (by simpa using hparts)
      split
      · exact .alt hrow.formed (hinside _)
      · exact hrow.formed

end Parser

namespace Pattern

theorem part_ofChars (cs : List Char) : Part (ofChars cs) := by
  induction cs with
  | nil => exact ⟨.empty, rfl⟩
  | cons c cs ih =>
    have hc : WellFormed (chars (oneChar c)) := .chars (ordered_oneChar c)
    cases cs with
    | nil => exact ⟨hc, rfl⟩
    | cons d cs => exact ⟨.seq hc ih.formed rfl ih.single, rfl⟩

theorem WellFormed.of_parse {s : String} (h : parse s = .ok p) : p.WellFormed := by
  have hformed := Parser.wellFormed_go (2 * s.toList.length + 1) [] s.toList (fun _ h => absurd h not_mem_nil)
  rw [parse, Parser.alternatives] at h
  split at h
  · cases h
    exact (part_ofChars s.toList).formed
  · split at h <;> cases h
    rename_i hgo
    rwa [hgo] at hformed

end Pattern

/-! ### Patterns that are written alike -/

section Pairs

variable {α β : Type} {R : α → β → Prop} {xs : List α} {ys : List β}

theorem exists_right_of_forall₂ (h : List.Forall₂ R xs ys) {x : α} (hx : x ∈ xs) : ∃ y ∈ ys, R x y := by
  induction h with
  | nil => cases hx
  | cons head _ ih =>
    cases hx with
    | head => exact ⟨_, mem_cons_self, head⟩
    | tail _ hx =>
      obtain ⟨y, hy, hxy⟩ := ih hx
      exact ⟨y, mem_cons_of_mem _ hy, hxy⟩

theorem exists_left_of_forall₂ (h : List.Forall₂ R xs ys) {y : β} (hy : y ∈ ys) : ∃ x ∈ xs, R x y :=
  exists_right_of_forall₂ h.flip hy

end Pairs

namespace Pattern

variable {q part first second inside : Pattern} {least : Nat} {most : Option Nat}

/-- An alternative is written like a pattern. -/
def like (b q : Pattern) : Bool := b.comparisons.all (· q)

theorem comparisons_eq (p : Pattern) : p.comparisons = p.branches.map like := by
  induction p with
  | alt left right ih ih' => rw [comparisons, branches, map_append, ih, ih']
  | _ => simp [comparisons, branches, funext_iff, like]

theorem alike_iff : p.alike q ↔ (∀ b ∈ p.branches, ∃ c ∈ q.branches, b.like c) ∧
      ∀ c ∈ q.branches, ∃ b ∈ p.branches, b.like c := by
  simp [alike, comparisons_eq]

theorem like_empty : empty.like q ↔ q = empty := by simp [like, comparisons]

theorem like_chars : (chars set).like q ↔ q = chars set := by simp [like, comparisons]

theorem like_group : (group inside).like q ↔ ∃ inside', q = group inside' ∧ inside.alike inside' := by
  cases q <;> simp [like, comparisons, alike]

theorem like_repeated : (repeated part least most).like q ↔
    ∃ part', q = repeated part' least most ∧ part.like part' := by
  cases q <;> simp [like, comparisons]
  grind

theorem like_seq : (seq first second).like q ↔
    ∃ first' second', q = seq first' second' ∧ first.like first' ∧ second.like second' := by
  cases q <;> simp [like, comparisons]

/-- What holds of the alternatives of a pattern that was read. -/
theorem WellFormed.forall_branches {P : Pattern → Prop} (h : p.WellFormed) (empty : P .empty) (chars : ∀ set, P (.chars set))
    (group : ∀ inside, (∀ b ∈ inside.branches, P b) → P (.group inside))
    (repeated : ∀ part least most, P part → P (.repeated part least most))
    (seq : ∀ first second, P first → P second → P (.seq first second)) : ∀ b ∈ p.branches, P b := by
  induction h with
  | empty => exact forall_mem_singleton.2 empty
  | chars => exact forall_mem_singleton.2 (chars _)
  | group _ ih => exact forall_mem_singleton.2 (group _ ih)
  | repeated _ single _ ih =>
    rw [single] at ih
    exact forall_mem_singleton.2 (repeated _ _ _ (forall_mem_singleton.1 ih))
  | seq _ _ single single' ih ih' =>
    rw [single] at ih
    rw [single'] at ih'
    exact forall_mem_singleton.2 (seq _ _ (forall_mem_singleton.1 ih) (forall_mem_singleton.1 ih'))
  | alt _ _ ih ih' => exact forall_mem_append.2 ⟨ih, ih'⟩

theorem alike_of_like (h : ∀ b ∈ p.branches, b.like b) : p.alike p :=
  alike_iff.2 ⟨fun b hb => ⟨b, hb, h b hb⟩, fun b hb => ⟨b, hb, h b hb⟩⟩

theorem WellFormed.alike_self (h : p.WellFormed) : p.alike p := by
  refine alike_of_like (h.forall_branches rfl (fun _ => like_chars.2 rfl) (fun inside ih => ?_) (fun _ _ _ ih => ?_)
    fun _ _ ih ih' => ?_)
  · exact like_group.2 ⟨inside, rfl, alike_of_like ih⟩
  · exact like_repeated.2 ⟨_, rfl, ih⟩
  · exact like_seq.2 ⟨_, _, rfl, ih, ih'⟩

end Pattern

open List Language
open Text

variable {part : Pattern} {least : Nat} {most : Option Nat} {ps : List Pattern}

namespace Pattern

variable {p q rest : Pattern} {set : CodePoints} {c k : Nat} {text : List Nat} {L : Language Nat}

def language : Pattern → Language Nat
  | .empty => 1
  | .chars set => {text | ∃ c ≤ lastCodePoint, set.holds c ∧ text = [c]}
  | .group inside => inside.language
  | .repeated part least most => {text | ∃ k, least ≤ k ∧ (∀ m ∈ most, k ≤ m) ∧ text ∈ part.language ^ k}
  | .seq first second => first.language * second.language
  | .alt left right => left.language + right.language

@[simp]
theorem mem_language_chars :
    text ∈ (chars set).language ↔ ∃ c ≤ lastCodePoint, set.holds c ∧ text = [c] := Iff.rfl

@[simp]
theorem mem_language_repeated : text ∈ (repeated part least most).language ↔
      ∃ k, least ≤ k ∧ (∀ m ∈ most, k ≤ m) ∧ text ∈ part.language ^ k := Iff.rfl

@[simp]
theorem language_followedBy (p q : Pattern) : (p.followedBy q).language = p.language * q.language := by
  cases p
  case empty => exact (one_mul _).symm
  all_goals rfl

/-- A pattern whose sets hold code points, and in which no repetition has a greatest number below the least one. -/
def Proper : Pattern → Prop
  | .empty => True
  | .chars set => Ordered set
  | .group inside => inside.Proper
  | .repeated part least most => part.Proper ∧ ∀ m ∈ most, least ≤ m
  | .seq first second => first.Proper ∧ second.Proper
  | .alt left right => left.Proper ∧ right.Proper

theorem WellFormed.proper (h : p.WellFormed) : p.Proper := by
  induction h with
  | empty => trivial
  | chars ordered => exact ordered
  | group _ ih => exact ih
  | repeated _ _ bounded ih => exact ⟨ih, bounded⟩
  | seq _ _ _ _ ih ih' | alt _ _ ih ih' => exact ⟨ih, ih'⟩

theorem Proper.followedBy (hp : p.Proper) (hq : q.Proper) : (p.followedBy q).Proper := by
  cases p
  case empty => exact hq
  all_goals exact ⟨hp, hq⟩

/-- A pattern follows a character at the beginning of another one. -/
def Follows (p : Pattern) (c : Nat) (rest : Pattern) : Prop := ∃ set, (set, rest) ∈ p.steps ∧ set.holds c

theorem mem_steps_seq : (set, rest) ∈ (seq p q).steps ↔
      (∃ r, (set, r) ∈ p.steps ∧ rest = r.followedBy q) ∨ p.nullable ∧ (set, rest) ∈ q.steps := by
  rw [steps]
  split <;> simp [*, eq_comm]

theorem mem_steps_repeated : (set, rest) ∈ (repeated part least most).steps ↔ most ≠ some 0 ∧
      ∃ r, (set, r) ∈ part.steps ∧ rest = r.followedBy (.repeated part (least - 1) (most.map (· - 1))) := by
  rcases most with _ | _ | n
  · simp [steps, eq_comm]
  · simp [steps]
  · simp [steps, eq_comm]

theorem holds_iff : set.holds c ↔ ∃ interval ∈ set, interval.1 ≤ c ∧ c ≤ interval.2 := by
  simp [CodePoints.holds]

theorem le_of_holds (h : Ordered set) (hc : set.holds c) : c ≤ lastCodePoint := by
  obtain ⟨interval, hmem, -, hle⟩ := holds_iff.1 hc
  exact hle.trans (h interval hmem).2

/-! ### Few patterns follow -/

/-- The patterns that a text can meet behind its first character. -/
def rests : Pattern → List Pattern
  | .empty => []
  | .chars _ => [.empty]
  | .group inside => inside.rests
  | .repeated part least most =>
    (List.range (most.getD (least + 1))).flatMap fun i =>
      part.rests.map (·.followedBy (.repeated part (least - (i + 1)) (most.map (· - (i + 1)))))
  | .seq first second => first.rests.map (·.followedBy second) ++ second.rests
  | .alt left right => left.rests ++ right.rests

theorem length_rests (p : Pattern) : p.rests.length ≤ p.size := by
  induction p with
  | empty | chars => exact le_rfl
  | group _ ih => exact ih
  | repeated part least most ih =>
    have hlength : (repeated part least most).rests.length = most.getD (least + 1) * part.rests.length := by
      simp [rests, length_flatMap]
    rw [hlength]
    exact Nat.mul_le_mul_left _ ih
  | seq first second ih ih' =>
    rw [rests, length_append, length_map]
    exact Nat.add_le_add ih ih'
  | alt left right ih ih' =>
    rw [rests, length_append]
    exact Nat.add_le_add ih ih'

theorem mem_rests_repeated : rest ∈ (repeated part least most).rests ↔ ∃ i < most.getD (least + 1), ∃ r ∈ part.rests,
      rest = r.followedBy (.repeated part (least - (i + 1)) (most.map (· - (i + 1)))) := by
  simp [rests, eq_comm]

theorem mem_steps_followedBy (h : (set, rest) ∈ (p.followedBy q).steps) :
    (∃ r, (set, r) ∈ p.steps ∧ rest = r.followedBy q) ∨ (set, rest) ∈ q.steps := by
  cases p
  all_goals exact (mem_steps_seq.1 h).imp_right And.right

theorem mem_rests_of_step (h : (set, rest) ∈ p.steps) : rest ∈ p.rests := by
  induction p generalizing set rest with
  | empty => cases h
  | chars _ =>
    cases mem_singleton.1 h
    exact mem_singleton_self _
  | group _ ih => exact ih h
  | repeated part least most ih =>
    obtain ⟨hmost, r, hr, rfl⟩ := mem_steps_repeated.1 h
    refine mem_rests_repeated.2 ⟨0, ?_, r, ih hr, rfl⟩
    rcases most with _ | _ | n
    · exact Nat.succ_pos _
    · exact absurd rfl hmost
    · exact Nat.succ_pos _
  | seq first second ih ih' =>
    rcases mem_steps_seq.1 h with ⟨r, hr, rfl⟩ | ⟨-, hr⟩
    · exact mem_append_left _ (mem_map_of_mem (ih hr))
    · exact mem_append_right _ (ih' hr)
  | alt left right ih ih' =>
    rcases mem_append.1 h with hr | hr
    · exact mem_append_left _ (ih hr)
    · exact mem_append_right _ (ih' hr)

theorem Proper.rests (h : p.Proper) : ∀ r ∈ p.rests, r.Proper := by
  induction p with
  | empty => exact fun r hr => absurd hr not_mem_nil
  | chars _ =>
    intro r hr
    cases mem_singleton.1 hr
    trivial
  | group _ ih => exact ih h
  | repeated part least most ih =>
    obtain ⟨hpart, hbound⟩ := h
    intro r hr
    obtain ⟨i, -, r', hr', rfl⟩ := mem_rests_repeated.1 hr
    refine (ih hpart r' hr').followedBy ⟨hpart, ?_⟩
    intro m hm
    obtain ⟨n, hn, rfl⟩ := Option.mem_map.1 hm
    have := hbound n hn
    omega
  | seq first second ih ih' =>
    intro r hr
    rcases mem_append.1 hr with hr | hr
    · obtain ⟨r', hr', rfl⟩ := mem_map.1 hr
      exact (ih h.1 r' hr').followedBy h.2
    · exact ih' h.2 r hr
  | alt left right ih ih' =>
    intro r hr
    rcases mem_append.1 hr with hr | hr
    · exact ih h.1 r hr
    · exact ih' h.2 r hr

theorem Proper.step (h : p.Proper) (hstep : (set, rest) ∈ p.steps) : rest.Proper := h.rests rest (mem_rests_of_step hstep)

/-! ### The empty text, and the first character of a text -/

theorem nil_mem_pow : [] ∈ L ^ k ↔ k = 0 ∨ [] ∈ L := by
  induction k with
  | zero => simp
  | succ k ih =>
    rw [pow_succ']
    constructor
    · rintro ⟨u, hu, v, -, huv⟩
      obtain ⟨rfl, -⟩ := append_eq_nil_iff.1 huv
      exact .inr hu
    · rintro (h | h)
      · omega
      · exact ⟨[], h, [], ih.2 (.inr h), rfl⟩

/-- Of several texts in a row the first one that is not empty can be taken as the first of all: the empty ones before it
may as well come last. -/
theorem cons_mem_pow : c :: text ∈ L ^ (k + 1) ↔ ∃ u v, c :: u ∈ L ∧ v ∈ L ^ k ∧ u ++ v = text := by
  constructor
  · intro h
    induction k with
    | zero =>
      rw [pow_one] at h
      exact ⟨text, [], h, nil_mem_one, append_nil _⟩
    | succ k ih =>
      rw [pow_succ'] at h
      obtain ⟨a, ha, b, hb, hab⟩ := h
      cases a with
      | nil =>
        obtain ⟨u, v, hu, hv, huv⟩ := ih (hab ▸ hb)
        refine ⟨u, v, hu, ?_, huv⟩
        rw [pow_succ']
        exact ⟨[], ha, v, hv, rfl⟩
      | cons d u =>
        obtain ⟨rfl, huv⟩ := List.cons.inj hab
        exact ⟨u, b, ha, hb, huv⟩
  · rintro ⟨u, v, hu, hv, rfl⟩
    rw [pow_succ']
    exact ⟨c :: u, hu, v, hv, rfl⟩

theorem nil_mem_language (h : p.Proper) : [] ∈ p.language ↔ p.nullable := by
  induction p with
  | empty => simp [language, nullable]
  | chars set => simp [nullable]
  | group _ ih => exact ih h
  | repeated part least most ih =>
    obtain ⟨hpart, hbound⟩ := h
    simp only [mem_language_repeated, nil_mem_pow, nullable, Bool.or_eq_true, beq_iff_eq, ih hpart]
    constructor
    · rintro ⟨k, hleast, -, rfl | hnull⟩
      · exact .inl (by omega)
      · exact .inr hnull
    · rintro (rfl | hnull)
      · exact ⟨0, le_rfl, fun m _ => Nat.zero_le m, .inl rfl⟩
      · exact ⟨least, le_rfl, hbound, .inr hnull⟩
  | seq first second ih ih' =>
    simp only [language, mem_mul, nullable, Bool.and_eq_true, ← ih h.1, ← ih' h.2]
    constructor
    · rintro ⟨u, hu, v, hv, huv⟩
      obtain ⟨rfl, rfl⟩ := append_eq_nil_iff.1 huv
      exact ⟨hu, hv⟩
    · rintro ⟨hu, hv⟩
      exact ⟨[], hu, [], hv, rfl⟩
  | alt left right ih ih' =>
    simp only [language, mem_add, nullable, Bool.or_eq_true, ih h.1, ih' h.2]

theorem cons_mem_language (h : p.Proper) : c :: text ∈ p.language ↔ ∃ rest, p.Follows c rest ∧ text ∈ rest.language := by
  induction p generalizing c text with
  | empty =>
    constructor
    · intro htext
      cases htext
    · rintro ⟨_, ⟨_, hstep, -⟩, -⟩
      cases hstep
  | chars set =>
    constructor
    · rintro ⟨d, -, hd, heq⟩
      cases heq
      exact ⟨.empty, ⟨set, mem_singleton_self _, hd⟩, nil_mem_one⟩
    · rintro ⟨_, ⟨_, hstep, hc⟩, htext⟩
      cases mem_singleton.1 hstep
      cases (mem_one text).1 htext
      exact ⟨c, le_of_holds h hc, hc, rfl⟩
  | group _ ih => exact ih h
  | repeated part least most ih =>
    obtain ⟨hpart, -⟩ := h
    constructor
    · rintro ⟨k, hleast, hmost, hk⟩
      cases k with
      | zero => cases hk
      | succ k =>
        obtain ⟨u, v, hu, hv, rfl⟩ := cons_mem_pow.1 hk
        obtain ⟨r, ⟨set, hstep, hc⟩, hr⟩ := (ih hpart).1 hu
        refine ⟨_, ⟨set, mem_steps_repeated.2 ⟨?_, r, hstep, rfl⟩, hc⟩, ?_⟩
        · rintro rfl
          have := hmost 0 rfl
          omega
        · rw [language_followedBy]
          refine ⟨u, hr, v, ⟨k, by omega, ?_, hv⟩, rfl⟩
          intro m hm
          obtain ⟨n, hn, rfl⟩ := Option.mem_map.1 hm
          have := hmost n hn
          omega
    · rintro ⟨_, ⟨set, hmem, hc⟩, htext⟩
      obtain ⟨hmost, r, hstep, rfl⟩ := mem_steps_repeated.1 hmem
      rw [language_followedBy] at htext
      obtain ⟨u, hu, v, ⟨k, hleast, hk, hv⟩, rfl⟩ := htext
      refine ⟨k + 1, by omega, ?_, cons_mem_pow.2 ⟨u, v, (ih hpart).2 ⟨r, ⟨set, hstep, hc⟩, hu⟩, hv, rfl⟩⟩
      intro m hm
      have hne : m ≠ 0 := by
        rintro rfl
        exact hmost hm
      have := hk (m - 1) (Option.mem_map.2 ⟨m, hm, rfl⟩)
      omega
  | seq first second ih ih' =>
    obtain ⟨hfirst, hsecond⟩ := h
    rw [language]
    constructor
    · rintro ⟨a, ha, b, hb, hab⟩
      cases a with
      | nil =>
        have hnullable := (nil_mem_language hfirst).1 ha
        subst hab
        obtain ⟨r, ⟨set, hstep, hc⟩, hr⟩ := (ih' hsecond).1 hb
        exact ⟨r, ⟨set, mem_steps_seq.2 (.inr ⟨hnullable, hstep⟩), hc⟩, hr⟩
      | cons d u =>
        obtain ⟨rfl, rfl⟩ := List.cons.inj hab
        obtain ⟨r, ⟨set, hstep, hc⟩, hr⟩ := (ih hfirst).1 ha
        refine ⟨r.followedBy second, ⟨set, mem_steps_seq.2 (.inl ⟨r, hstep, rfl⟩), hc⟩, ?_⟩
        rw [language_followedBy]
        exact ⟨u, hr, b, hb, rfl⟩
    · rintro ⟨r, ⟨set, hstep, hc⟩, htext⟩
      rcases mem_steps_seq.1 hstep with ⟨r, hr, rfl⟩ | ⟨hnullable, hr⟩
      · rw [language_followedBy] at htext
        obtain ⟨u, hu, v, hv, rfl⟩ := htext
        exact ⟨c :: u, (ih hfirst).2 ⟨r, ⟨set, hr, hc⟩, hu⟩, v, hv, rfl⟩
      · exact ⟨[], (nil_mem_language hfirst).2 hnullable, c :: text, (ih' hsecond).2 ⟨r, ⟨set, hr, hc⟩, htext⟩, rfl⟩
  | alt left right ih ih' =>
    rw [language, mem_add, ih h.1, ih' h.2]
    simp only [Follows, steps, mem_append, or_and_right, exists_or]

/-! ### Following a text -/

theorem mem_after : rest ∈ after c ps ↔ ∃ p ∈ ps, p.Follows c rest := by
  simp only [after, mem_eraseDups, mem_map, mem_filter, mem_flatMap]
  constructor
  · rintro ⟨⟨set, rest⟩, ⟨⟨p, hp, hstep⟩, hc⟩, rfl⟩
    exact ⟨p, hp, set, hstep, hc⟩
  · rintro ⟨p, hp, set, hstep, hc⟩
    exact ⟨(set, rest), ⟨⟨p, hp, hstep⟩, hc⟩, rfl⟩

theorem Proper.follows (h : p.Proper) (hfollows : p.Follows c rest) : rest.Proper := by
  obtain ⟨set, hstep, -⟩ := hfollows
  exact h.step hstep

theorem proper_after (h : ∀ p ∈ ps, p.Proper) : ∀ r ∈ after c ps, r.Proper := by
  intro r hr
  obtain ⟨p, hp, hfollows⟩ := mem_after.1 hr
  exact (h p hp).follows hfollows

theorem exists_mem_after (h : ∀ p ∈ ps, p.Proper) :
    (∃ r ∈ after c ps, text ∈ r.language) ↔ ∃ p ∈ ps, c :: text ∈ p.language := by
  constructor
  · rintro ⟨r, hr, htext⟩
    obtain ⟨p, hp, hfollows⟩ := mem_after.1 hr
    exact ⟨p, hp, (cons_mem_language (h p hp)).2 ⟨r, hfollows, htext⟩⟩
  · rintro ⟨p, hp, htext⟩
    obtain ⟨r, hfollows, hr⟩ := (cons_mem_language (h p hp)).1 htext
    exact ⟨r, mem_after.2 ⟨p, hp, hfollows⟩, hr⟩

theorem any_nullable_iff (h : ∀ p ∈ ps, p.Proper) : ps.any nullable ↔ ∃ p ∈ ps, [] ∈ p.language := by
  rw [any_eq_true]
  constructor
  · rintro ⟨p, hp, hnullable⟩
    exact ⟨p, hp, (nil_mem_language (h p hp)).2 hnullable⟩
  · rintro ⟨p, hp, hnil⟩
    exact ⟨p, hp, (nil_mem_language (h p hp)).1 hnil⟩

theorem anyMatches_iff (h : ∀ p ∈ ps, p.Proper) : anyMatches ps text ↔ ∃ p ∈ ps, text ∈ p.language := by
  induction text generalizing ps with
  | nil => exact any_nullable_iff h
  | cons c text ih =>
    rw [anyMatches, ih (proper_after h)]
    exact exists_mem_after h

theorem matches_iff (h : p.Proper) (s : String) : p.matches s ↔ codePoints s ∈ p.language := by
  rw [«matches», anyMatches_iff (by simpa using h)]
  simp

theorem mem_rests_of_mem_rests (hq : q ∈ p.rests) (h : (set, rest) ∈ q.steps) : rest ∈ p.rests := by
  induction p generalizing q set rest with
  | empty => cases hq
  | chars _ =>
    cases mem_singleton.1 hq
    cases h
  | group _ ih => exact ih hq h
  | repeated part least most ih =>
    obtain ⟨i, hi, r, hr, rfl⟩ := mem_rests_repeated.1 hq
    rw [mem_rests_repeated]
    rcases mem_steps_followedBy h with ⟨r', hr', rfl⟩ | hstep
    · exact ⟨i, hi, r', ih hr hr', rfl⟩
    · obtain ⟨hmost, r', hr', rfl⟩ := mem_steps_repeated.1 hstep
      have hr' := mem_rests_of_step hr'
      cases most with
      | none =>
        -- Once the least number is used up, the same repetition follows again and again.
        by_cases hlast : i < least
        · exact ⟨i + 1, by simpa using hlast, r', hr', by simp [Nat.sub_sub]⟩
        · have hzero : least - (i + 1) - 1 = least - (i + 1) := by omega
          exact ⟨i, hi, r', hr', by rw [hzero]; rfl⟩
      | some n =>
        have hleft : n - (i + 1) ≠ 0 := fun hzero => hmost (by simp [hzero])
        exact ⟨i + 1, by simp only [Option.getD_some]; omega, r', hr', by simp [Nat.sub_sub]⟩
  | seq first second ih ih' =>
    rcases mem_append.1 hq with hq | hq
    · obtain ⟨r, hr, rfl⟩ := mem_map.1 hq
      rcases mem_steps_followedBy h with ⟨r', hr', rfl⟩ | hstep
      · exact mem_append_left _ (mem_map_of_mem (ih hr hr'))
      · exact mem_append_right _ (mem_rests_of_step hstep)
    · exact mem_append_right _ (ih' hq h)
  | alt left right ih ih' =>
    rcases mem_append.1 hq with hq | hq
    · exact mem_append_left _ (ih hq h)
    · exact mem_append_right _ (ih' hq h)

/-- The pattern itself and those that a text can meet. -/
def stages (p : Pattern) : List Pattern := p :: p.rests

theorem length_stages (p : Pattern) : p.stages.length ≤ p.size + 1 := Nat.succ_le_succ p.length_rests

theorem mem_stages_of_step (hq : q ∈ p.stages) (h : (set, rest) ∈ q.steps) : rest ∈ p.stages := by
  rcases mem_cons.1 hq with rfl | hq
  · exact mem_cons_of_mem _ (mem_rests_of_step h)
  · exact mem_cons_of_mem _ (mem_rests_of_mem_rests hq h)

theorem Proper.stages (h : p.Proper) : ∀ r ∈ p.stages, r.Proper := forall_mem_cons.2 ⟨h, h.rests⟩

/-! ### A text in common -/

def Shares (p q : Pattern) : Prop := ∃ text, text ∈ p.language ∧ text ∈ q.language

theorem meet_iff {a b : CodePoints} : meet a b ↔ ∃ c, a.holds c ∧ b.holds c := by
  simp only [meet, any_eq_true, decide_eq_true_eq, holds_iff]
  constructor
  · rintro ⟨i, hi, j, hj, hle⟩
    exact ⟨max i.1 j.1, ⟨i, hi, by omega⟩, j, hj, by omega⟩
  · rintro ⟨c, ⟨i, hi, hic⟩, j, hj, hjc⟩
    exact ⟨i, hi, j, hj, by omega⟩

theorem mem_commonSteps {pair next : Pattern × Pattern} :
    next ∈ commonSteps pair ↔ ∃ c, pair.1.Follows c next.1 ∧ pair.2.Follows c next.2 := by
  simp only [commonSteps, mem_flatMap, mem_filterMap, Follows]
  constructor
  · rintro ⟨⟨set, r⟩, hr, ⟨set', r'⟩, hr', hnext⟩
    split at hnext
    · cases hnext
      obtain ⟨c, hc, hc'⟩ := meet_iff.1 ‹_›
      exact ⟨c, ⟨set, hr, hc⟩, set', hr', hc'⟩
    · cases hnext
  · rintro ⟨c, ⟨set, hr, hc⟩, set', hr', hc'⟩
    exact ⟨(set, next.1), hr, (set', next.2), hr', by simp [meet_iff.2 ⟨c, hc, hc'⟩]⟩

theorem shares_of_nullable (hp : p.Proper) (hq : q.Proper) (h : (p.nullable && q.nullable)) : p.Shares q := by
  obtain ⟨hnull, hnull'⟩ := Bool.and_eq_true_iff.1 h
  exact ⟨[], (nil_mem_language hp).2 hnull, (nil_mem_language hq).2 hnull'⟩

theorem Shares.of_step {next : Pattern × Pattern} (hp : p.Proper) (hq : q.Proper) (hstep : next ∈ commonSteps (p, q))
    (h : next.1.Shares next.2) : p.Shares q := by
  obtain ⟨c, hr, hr'⟩ := mem_commonSteps.1 hstep
  obtain ⟨text, htext, htext'⟩ := h
  exact ⟨c :: text, (cons_mem_language hp).2 ⟨_, hr, htext⟩, (cons_mem_language hq).2 ⟨_, hr', htext'⟩⟩

section Search

variable {fuel : Nat} {seen todo all : List (Pattern × Pattern)} (hproper : ∀ pair ∈ all, pair.1.Proper ∧ pair.2.Proper)

include hproper

/-- Pairs that lead to each other only, none of which has the empty text in common, have no text in common. -/
theorem not_shares_of_closed (hseen : seen ⊆ all) (hnull : ∀ pair ∈ seen, ¬(pair.1.nullable && pair.2.nullable))
    (hnext : ∀ pair ∈ seen, ∀ next ∈ commonSteps pair, next ∈ seen) : ¬∃ pair ∈ seen, pair.1.Shares pair.2 := by
  rintro ⟨pair, hmem, text, htext, htext'⟩
  induction text generalizing pair with
  | nil =>
    obtain ⟨hp, hq⟩ := hproper pair (hseen hmem)
    exact hnull pair hmem (Bool.and_eq_true_iff.2 ⟨(nil_mem_language hp).1 htext, (nil_mem_language hq).1 htext'⟩)
  | cons c text ih =>
    obtain ⟨hp, hq⟩ := hproper pair (hseen hmem)
    obtain ⟨r, hr, hrest⟩ := (cons_mem_language hp).1 htext
    obtain ⟨r', hr', hrest'⟩ := (cons_mem_language hq).1 htext'
    exact ih (r, r') (hnext pair hmem _ (mem_commonSteps.2 ⟨c, hr, hr'⟩)) hrest hrest'

/-- The search goes on until all that has been seen leads to what has been seen.  It has the fuel for all pairs. -/
theorem meetFrom_iff (hsteps : ∀ pair ∈ all, ∀ next ∈ commonSteps pair, next ∈ all) (hall : seen ++ todo ⊆ all)
    (hnew : ∀ pair ∈ todo, pair ∉ seen) (hsome : todo ≠ [])
    (hnull : ∀ pair ∈ seen, ¬(pair.1.nullable && pair.2.nullable))
    (hnext : ∀ pair ∈ seen, ∀ next ∈ commonSteps pair, next ∈ seen ++ todo)
    (hfuel : (all.filter (· ∉ seen)).length < fuel) :
    meetFrom fuel seen todo ↔ ∃ pair ∈ seen ++ todo, pair.1.Shares pair.2 := by
  induction fuel generalizing seen todo with
  | zero => omega
  | succ fuel ih =>
    rw [meetFrom]
    split
    · obtain ⟨pair, hmem, hboth⟩ := any_eq_true.1 ‹_›
      have hmem := mem_append_right seen hmem
      obtain ⟨hp, hq⟩ := hproper pair (hall hmem)
      exact iff_of_true rfl ⟨pair, hmem, shares_of_nullable hp hq hboth⟩
    rename_i hnone
    have hnull' := forall_mem_append.2 ⟨hnull, fun pair hmem hboth => hnone (any_eq_true.2 ⟨pair, hmem, hboth⟩)⟩
    dsimp only
    generalize hdef : ((todo.flatMap commonSteps).eraseDups).filter (fun pair => !(seen ++ todo).contains pair) = more
    have hmore (next : Pattern × Pattern) :
        next ∈ more ↔ (∃ pair ∈ todo, next ∈ commonSteps pair) ∧ next ∉ seen ++ todo := by
      rw [← hdef, mem_filter, mem_eraseDups]
      simp
    have hnext' : ∀ pair ∈ seen ++ todo, ∀ next ∈ commonSteps pair, next ∈ seen ++ todo ++ more := by
      refine forall_mem_append.2 ⟨fun pair hmem next hstep => mem_append_left _ (hnext pair hmem next hstep), ?_⟩
      intro pair hmem next hstep
      by_cases hold : next ∈ seen ++ todo
      · exact mem_append_left _ hold
      · exact mem_append_right _ ((hmore next).2 ⟨⟨pair, hmem, hstep⟩, hold⟩)
    split
    · rename_i hempty
      rw [List.isEmpty_iff.1 hempty, append_nil] at hnext'
      exact iff_of_false Bool.false_ne_true (not_shares_of_closed hproper hall hnull' hnext')
    rename_i hmany
    have hall' : more ⊆ all := fun next hmem => by
      obtain ⟨⟨pair, hpair, hstep⟩, -⟩ := (hmore next).1 hmem
      exact hsteps pair (hall (mem_append_right _ hpair)) next hstep
    -- a pair that was to be looked at has been seen now
    have hless : (all.filter (· ∉ seen ++ todo)).length < (all.filter (· ∉ seen)).length := by
      have hfilter : all.filter (· ∉ seen ++ todo) = (all.filter (· ∉ seen)).filter (· ∉ todo) := by
        rw [filter_filter]
        exact filter_congr fun pair _ => by simp [not_or, Bool.and_comm]
      obtain ⟨first, hfirst⟩ := exists_mem_of_ne_nil todo hsome
      have hunseen := hnew first hfirst
      rw [hfilter]
      exact length_filter_lt_length_iff_exists.2 ⟨first, by simp [hunseen, hall (mem_append_right _ hfirst)], by simpa⟩
    rw [ih (append_subset.2 ⟨hall, hall'⟩) (fun next hmem => ((hmore next).1 hmem).2) (by simpa using hmany) hnull' hnext'
      (by omega)]
    refine ⟨?_, fun ⟨pair, hmem, hshares⟩ => ⟨pair, mem_append_left _ hmem, hshares⟩⟩
    rintro ⟨next, hmem, hshares⟩
    rcases mem_append.1 hmem with hmem | hmem
    · exact ⟨next, hmem, hshares⟩
    · obtain ⟨⟨pair, hpair, hstep⟩, -⟩ := (hmore next).1 hmem
      have hpair := mem_append_right seen hpair
      obtain ⟨hp, hq⟩ := hproper pair (hall hpair)
      exact ⟨pair, hpair, hshares.of_step hp hq hstep⟩

end Search

theorem meets_iff (hp : p.Proper) (hq : q.Proper) : p.meets q ↔ p.Shares q := by
  have hproper : ∀ pair ∈ p.stages ×ˢ q.stages, pair.1.Proper ∧ pair.2.Proper := fun pair hmem =>
    ⟨hp.stages _ (mem_product.1 hmem).1, hq.stages _ (mem_product.1 hmem).2⟩
  have hsteps : ∀ pair ∈ p.stages ×ˢ q.stages, ∀ next ∈ commonSteps pair, next ∈ p.stages ×ˢ q.stages := by
    intro pair hmem next hstep
    obtain ⟨c, ⟨set, hset, -⟩, set', hset', -⟩ := mem_commonSteps.1 hstep
    obtain ⟨hp, hq⟩ := mem_product.1 hmem
    exact mem_product.2 ⟨mem_stages_of_step hp hset, mem_stages_of_step hq hset'⟩
  have hpairs : (p.stages ×ˢ q.stages).length < (p.size + 2) * (q.size + 2) := by
    rw [length_product]
    exact Nat.mul_lt_mul'' (Nat.lt_succ_of_le p.length_stages) (Nat.lt_succ_of_le q.length_stages)
  rw [meets, meetFrom_iff hproper hsteps (by simp [stages]) (by simp) (by simp) (by simp) (by simp)
    ((length_filter_le _ _).trans_lt hpairs)]
  simp

end Pattern

end StreamBot.Trigger
