import Mathlib
import StreamBot.Chat.Broadcaster
import StreamBot.Proofs.Dict

/-! # Messages are spread evenly

The messages of one interval are made from the rows of this interval alone (`filter_ofRows`), so what is said about one
interval holds of all rows (`perm_of_filter`).  Within an interval the rows are ordered by keys that do not hang on their
order (`ordered_eq_of_perm`), and the k-th of n rows is sent after k n-ths of the interval, which is computed here with exact
numbers (`Slot.exactPhase`).

Main statement: `evenly_spaced`.
-/

namespace StreamBot.Chat

open List
open Database (Broadcast)

/-! ### Places in an interval -/

/-- The phase in exact numbers. -/
def Slot.exactPhase (s : Slot) (interval : Int) : ℚ := s.phaseIn (fun n => n) interval

theorem Slot.exactPhase_eq {s : Slot} {interval : Int} (hpos : 0 < interval) (hindex : s.index < s.count)
    (hcount : s.count < 10 ^ 9) : s.exactPhase interval = s.index * interval / s.count := by
  obtain ⟨index, count⟩ := s
  dsimp only at *
  by_cases hone : count = 1
  · obtain rfl : index = 0 := by omega
    norm_num [exactPhase, phaseIn, hone]
  have hn : (0 : ℚ) < count := by exact_mod_cast (by omega)
  have hinterval : (1 : ℚ) ≤ interval := by exact_mod_cast hpos
  have hnext : (index : ℚ) + 1 ≤ count := by exact_mod_cast hindex
  have hbound : (count : ℚ) < 10 ^ 9 := by exact_mod_cast hcount
  have hbefore : (index * interval / count : ℚ) < interval - 1e-9 := by
    rw [div_lt_iff₀ hn]
    nlinarith
  have hshare : (0 : ℚ) ≤ index * interval / count := by positivity
  simp only [exactPhase, phaseIn, hone, if_false, Int.cast_mul, Int.cast_natCast, hbefore, if_true]
  rcases hshare.lt_or_eq with hlt | heq
  · rw [if_pos (by norm_num; exact hlt)]
  · rw [← heq]
    norm_num

namespace Broadcaster

variable {now : Float} {rows rows' : List Broadcast} {interval : Int}

/-! ### The order of keys -/

theorem keyPrecedes_iff {a b : Nat × String} : keyPrecedes a b ↔ toLex a ≤ toLex b := by
  simp [keyPrecedes, Prod.Lex.toLex_le_toLex]

/-! ### Rows of one interval -/

theorem ordered_eq (rows : List Broadcast) :
    ordered rows = rows.mergeSort fun a b => keyPrecedes (stableKey a) (stableKey b) := by
  have hkeyed := map_mergeSort (f := fun row => (stableKey row, row)) (s := fun a b => keyPrecedes a.1 b.1) (l := rows)
    fun _ _ _ _ => rfl
  rw [ordered, ← hkeyed, map_map]
  exact map_id _

theorem ordered_perm (rows : List Broadcast) : (ordered rows).Perm rows := ordered_eq rows ▸ mergeSort_perm rows _

theorem ordered_pairwise (rows : List Broadcast) :
    (ordered rows).Pairwise fun a b => toLex (stableKey a) ≤ toLex (stableKey b) := by
  have hsorted : (ordered rows).Pairwise fun a b => keyPrecedes (stableKey a) (stableKey b) := by
    rw [ordered_eq]
    refine pairwise_mergeSort (fun a b c hab hbc => ?_) (fun a b => ?_) rows
    · rw [keyPrecedes_iff] at *
      exact hab.trans hbc
    · rw [Bool.or_eq_true, keyPrecedes_iff, keyPrecedes_iff]
      exact le_total _ _
  exact hsorted.imp keyPrecedes_iff.1

/-- The order does not hang on the order of the rows if these are told apart by their keys. -/
theorem ordered_eq_of_perm (h : rows'.Perm rows)
    (hkeys : ∀ a ∈ rows, ∀ b ∈ rows, stableKey a = stableKey b → a = b) : ordered rows' = ordered rows := by
  have hperm := (ordered_perm rows').trans (h.trans (ordered_perm rows).symm)
  refine hperm.eq_of_pairwise (fun a b ha hb hab hba => ?_) (ordered_pairwise rows') (ordered_pairwise rows)
  rw [hperm.mem_iff] at ha
  rw [(ordered_perm rows).mem_iff] at ha hb
  exact hkeys a ha b hb (toLex_inj.1 (hab.antisymm hba))

theorem mem_ofInterval {b : Broadcaster} (h : b ∈ ofInterval now rows) :
    ∃ row ∈ rows, ∃ i < rows.length, b = ofRow now row ⟨i, rows.length⟩ := by
  obtain ⟨⟨row, i⟩, hmem, rfl⟩ := mem_map.1 h
  obtain ⟨-, hi, hrow⟩ := mem_zipIdx hmem
  rw [(ordered_perm rows).length_eq] at hi
  have hmem := (ordered_perm rows).subset (hrow ▸ getElem_mem _)
  exact ⟨row, hmem, i, by omega, rfl⟩

/-! ### Rows of all intervals -/

/-- The messages of one interval are made from its rows alone. -/
theorem filter_ofRows (now : Float) (rows : List Broadcast) (interval : Int) :
    (ofRows now rows).filter (·.interval == interval) = ofInterval now (rows.filter (·.intervalSeconds == interval)) := by
  have hgroup (i : Int) : (ofInterval now (rows.filter (·.intervalSeconds == i))).filter (·.interval == interval) =
      if i = interval then ofInterval now (rows.filter (·.intervalSeconds == interval)) else [] := by
    have hinterval : ∀ b ∈ ofInterval now (rows.filter (·.intervalSeconds == i)), b.interval = i := by
      intro b hb
      obtain ⟨row, hrow, _, _, rfl⟩ := mem_ofInterval hb
      exact beq_iff_eq.1 (mem_filter.1 hrow).2
    split
    next heq =>
      subst heq
      exact filter_eq_self.2 fun b hb => by simp [hinterval b hb]
    next hne => exact filter_eq_nil_iff.2 fun b hb => by simpa [hinterval b hb] using hne
  have hflat (l : List Int) (bs : List Broadcaster) : (l.flatMap fun i => if i = interval then bs else []) =
      (replicate (l.count interval) bs).flatten := by
    induction l with
    | nil => rfl
    | cons i l ih => by_cases hi : i = interval <;> simp [hi, ih, replicate_succ]
  rw [ofRows, filter_flatMap, funext hgroup, hflat, (nodup_eraseDups _).count]
  split
  next => simp
  next hnone =>
    have hrows : rows.filter (·.intervalSeconds == interval) = [] := by simpa using hnone
    rw [hrows]
    simp [ofInterval, ordered]

theorem perm_of_filter {α : Type} (key : α → Int) {l l' : List α}
    (h : ∀ k, (l.filter (key · == k)).Perm (l'.filter (key · == k))) : l.Perm l' := by
  classical
  refine perm_iff_count.2 fun a => ?_
  rw [← count_filter (p := fun b => key b == key a) (by simp),
    ← count_filter (l := l') (p := fun b => key b == key a) (by simp), (h (key a)).count_eq]

def content (b : Broadcaster) : Int × String × Option String := (b.interval, b.message, b.alias?)

def rowContent (row : Broadcast) : Int × String × Option String :=
  (row.intervalSeconds, row.message, row.aliasCommand.map (Text.dropPrefix · "!"))

theorem content_ofInterval (now : Float) (rows : List Broadcast) :
    (ofInterval now rows).map content = (ordered rows).map rowContent := by
  rw [ofInterval, map_map]
  change map (rowContent ∘ Prod.fst) _ = _
  rw [← map_map, zipIdx_map_fst]

def exactPhase (b : Broadcaster) : ℚ := b.slot.exactPhase b.interval

theorem exactPhase_ofInterval (hrows : ∀ row ∈ rows, 0 < row.intervalSeconds ∧ row.intervalSeconds = interval)
    (hcount : rows.length < 10 ^ 9) :
    (ofInterval now rows).map exactPhase = (range rows.length).map fun k : ℕ => (k * interval / rows.length : ℚ) := by
  have hlength := (ordered_perm rows).length_eq
  rw [ofInterval, map_map, range_eq_range', ← hlength, ← zipIdx_map_snd 0 (ordered rows), map_map]
  refine map_congr_left fun ⟨row, i⟩ hmem => ?_
  obtain ⟨-, hi, hrow⟩ := mem_zipIdx hmem
  obtain ⟨hpos, rfl⟩ := hrows row ((ordered_perm rows).subset (hrow ▸ getElem_mem _))
  change Slot.exactPhase ⟨i, _⟩ row.intervalSeconds = _
  rw [Slot.exactPhase_eq hpos (by dsimp only; omega) (by dsimp only; omega)]
  rfl

theorem spread {n : ℕ} (hpos : 0 < n → 0 < interval) : ((range n).map fun k : ℕ => (k * interval / n : ℚ)).Nodup ∧
    ∀ p ∈ (range n).map fun k : ℕ => (k * interval / n : ℚ), 0 ≤ p ∧ p < interval := by
  rcases n.eq_zero_or_pos with rfl | hn
  · simp
  have hinterval : (0 : ℚ) < interval := by exact_mod_cast hpos hn
  have hn : (0 : ℚ) < n := by exact_mod_cast hn
  refine ⟨nodup_range.map fun k l hkl => ?_, ?_⟩
  · rw [div_left_inj' hn.ne', mul_left_inj' hinterval.ne'] at hkl
    exact_mod_cast hkl
  · simp only [mem_map, mem_range]
    rintro _ ⟨k, hk, rfl⟩
    refine ⟨by positivity, ?_⟩
    rw [div_lt_iff₀ hn, mul_comm]
    gcongr

/-- There is one message for each row.  Those of an interval are spread evenly over it, in the order of the keys of their
rows; and if the keys of an interval differ, then the order of the rows does not matter. -/
theorem evenly_spaced (now : Float) (rows : List Broadcast) (hpos : ∀ row ∈ rows, 0 < row.intervalSeconds) :
    ((ofRows now rows).map content).Perm (rows.map rowContent) ∧
    (∀ b ∈ ofRows now rows, b.next = now + b.slot.phase b.interval) ∧
    (∀ interval : Int, ∃ group : List Broadcast, group.Perm (rows.filter (·.intervalSeconds == interval)) ∧
      group.Pairwise (fun a b => toLex (stableKey a) ≤ toLex (stableKey b)) ∧
      ((ofRows now rows).filter (·.interval == interval)).map content = group.map rowContent) ∧
    (∀ interval : Int, let n := (rows.filter (·.intervalSeconds == interval)).length
      let phases := ((ofRows now rows).filter (·.interval == interval)).map exactPhase
      n < 10 ^ 9 → phases = ((range n).map fun k : ℕ => (k * interval / n : ℚ)) ∧ phases.Nodup ∧
        ∀ p ∈ phases, 0 ≤ p ∧ p < interval) ∧
    (∀ rows', rows'.Perm rows →
      (∀ a ∈ rows, ∀ b ∈ rows, a.intervalSeconds = b.intervalSeconds → stableKey a = stableKey b → a = b) →
      (ofRows now rows').Perm (ofRows now rows)) := by
  simp only [filter_ofRows]
  refine ⟨perm_of_filter Prod.fst fun interval => ?_, fun b hb => ?_, fun interval => ?_, fun interval => ?_,
    fun rows' hperm hkeys => perm_of_filter Broadcaster.interval fun interval => ?_⟩
  · rw [filter_map, filter_map]
    change Perm (((ofRows now rows).filter (·.interval == interval)).map content)
      ((rows.filter (·.intervalSeconds == interval)).map rowContent)
    rw [filter_ofRows, content_ofInterval]
    exact (ordered_perm _).map _
  · obtain ⟨interval, -, hmem⟩ := mem_flatMap.1 hb
    obtain ⟨row, -, i, -, rfl⟩ := mem_ofInterval hmem
    rfl
  · exact ⟨_, ordered_perm _, ordered_pairwise _, content_ofInterval now _⟩
  · have hrows : ∀ row ∈ rows.filter (·.intervalSeconds == interval),
        0 < row.intervalSeconds ∧ row.intervalSeconds = interval := fun row hrow =>
      ⟨hpos row (mem_filter.1 hrow).1, beq_iff_eq.1 (mem_filter.1 hrow).2⟩
    intro hn
    rw [exactPhase_ofInterval hrows hn]
    refine ⟨rfl, spread fun hn => ?_⟩
    obtain ⟨row, hrow⟩ := exists_mem_of_length_pos hn
    obtain ⟨hpos, rfl⟩ := hrows row hrow
    exact hpos
  · rw [filter_ofRows, filter_ofRows, ofInterval, ofInterval, (hperm.filter _).length_eq,
      ordered_eq_of_perm (hperm.filter _) fun a ha b hb => ?_]
    rw [mem_filter, beq_iff_eq] at ha hb
    exact hkeys a ha.1 b hb.1 (ha.2.trans hb.2.symm)

theorem evenly_spaced_three :
    let rows : List Broadcast := [⟨1, 10, "a", none⟩, ⟨2, 10, "b", some "!b"⟩, ⟨3, 7, "c", none⟩]
    (∀ row ∈ rows, 0 < row.intervalSeconds) ∧
    (∀ a ∈ rows, ∀ b ∈ rows, a.intervalSeconds = b.intervalSeconds → stableKey a = stableKey b → a = b) ∧
    ((ofRows 0 rows).filter (·.interval == 10)).map exactPhase = [0, 5] ∧
    (ofRows 0 rows.reverse).Perm (ofRows 0 rows) := by
  intro rows
  have hpos : ∀ row ∈ rows, 0 < row.intervalSeconds := by decide
  have hkeys : ∀ a ∈ rows, ∀ b ∈ rows, a.intervalSeconds = b.intervalSeconds → stableKey a = stableKey b → a = b := by
    decide +kernel
  obtain ⟨-, -, -, hphases, hperm⟩ := evenly_spaced 0 rows hpos
  refine ⟨hpos, hkeys, ?_, hperm rows.reverse (reverse_perm rows) hkeys⟩
  rw [(hphases 10 (by decide)).1]
  norm_num [rows, range_succ]

end Broadcaster
end StreamBot.Chat
