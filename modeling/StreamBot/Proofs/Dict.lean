import StreamBot.Dict

/-! # Laws of dictionaries

What setting a key does to the values, to the order of the keys and to the members of a dictionary.
-/

namespace StreamBot

open List

theorem nodup_eraseDups {α : Type} [BEq α] [LawfulBEq α] (l : List α) : l.eraseDups.Nodup := by
  induction hlength : l.length using Nat.strongRecOn generalizing l with
  | _ n ih =>
    cases l with
    | nil => simp
    | cons a l =>
      rw [eraseDups_cons, nodup_cons]
      have hshorter : (l.filter fun b => !b == a).length < n := by
        rw [← hlength]
        exact Nat.lt_succ_of_le (length_filter_le _ _)
      refine ⟨fun hmem => ?_, ih _ hshorter _ rfl⟩
      rw [mem_eraseDups] at hmem
      simpa using (mem_filter.1 hmem).2

namespace Dict

variable {κ α : Type}
variable {d : Dict κ α}

@[simp] theorem keys_nil : keys ([] : Dict κ α) = [] := rfl

@[simp] theorem keys_cons (p : κ × α) (d : Dict κ α) : keys (p :: d) = p.1 :: keys d := rfl

variable [BEq κ] [LawfulBEq κ] {k : κ} {p : κ × α} {values : Dict κ α} {v : α}

theorem get?_cons_self (k : κ) (v : α) (d : Dict κ α) : get? ((k, v) :: d) k = some v := by
  simp [get?]

theorem get?_cons_of_ne (d : Dict κ α) (h : k ≠ p.1) : get? (p :: d) k = get? d k := by
  obtain ⟨k', v⟩ := p
  simp [get?, lookup_cons, beq_eq_false_iff_ne.mpr h]

theorem set_cons_self (k : κ) (v w : α) (d : Dict κ α) : set ((k, w) :: d) k v = (k, v) :: d := by
  simp [set]

theorem set_cons_of_ne (d : Dict κ α) (v : α) (h : k ≠ p.1) : set (p :: d) k v = p :: set d k v := by
  simp [set, Ne.symm h]

@[simp] theorem get?_set_self (d : Dict κ α) (k : κ) (v : α) : get? (set d k v) k = some v := by
  induction d with
  | nil => exact get?_cons_self k v []
  | cons p d ih =>
    by_cases h : k = p.1
    · subst h
      rw [set_cons_self, get?_cons_self]
    · rw [set_cons_of_ne d v h, get?_cons_of_ne _ h, ih]

theorem get?_set_of_ne {k k' : κ} (d : Dict κ α) (v : α) (h : k' ≠ k) : get? (set d k v) k' = get? d k' := by
  induction d with
  | nil => exact get?_cons_of_ne [] h
  | cons p d ih =>
    by_cases hp : k = p.1
    · subst hp
      rw [set_cons_self]
      rw [get?_cons_of_ne (p := (p.1, v)) d h, get?_cons_of_ne d h]
    · rw [set_cons_of_ne d v hp]
      by_cases hk : k' = p.1
      · subst hk
        rw [get?_cons_self, get?_cons_self]
      · rw [get?_cons_of_ne _ hk, get?_cons_of_ne _ hk, ih]

theorem has_eq_isSome (d : Dict κ α) (k : κ) : has d k = (get? d k).isSome := by
  induction d with
  | nil => rfl
  | cons p d ih =>
    by_cases h : k = p.1
    · subst h
      rw [get?_cons_self]
      simp [has]
    · rw [get?_cons_of_ne d h, ← ih]
      simp [has, Ne.symm h]

theorem mem_of_get? (h : get? d k = some v) : (k, v) ∈ d := by
  obtain ⟨before, after, rfl, -⟩ := lookup_eq_some_iff.mp h
  simp

theorem mem_set (h : p ∈ set d k v) : p ∈ d ∨ p = (k, v) := by
  induction d with
  | nil => exact .inr (mem_singleton.mp h)
  | cons q d ih =>
    by_cases hq : k = q.1
    · subst hq
      rw [set_cons_self] at h
      rcases mem_cons.mp h with rfl | h
      · exact .inr rfl
      · exact .inl (mem_cons_of_mem _ h)
    · rw [set_cons_of_ne d v hq] at h
      rcases mem_cons.mp h with rfl | h
      · exact .inl mem_cons_self
      · exact (ih h).imp_left (mem_cons_of_mem _)

theorem get?_of_mem (hnodup : (keys d).Nodup) (h : p ∈ d) : get? d p.1 = some p.2 := by
  induction d with
  | nil => cases h
  | cons q d ih =>
    rw [keys_cons, nodup_cons] at hnodup
    rcases mem_cons.mp h with rfl | h
    · exact get?_cons_self p.1 p.2 d
    · have hne : p.1 ≠ q.1 := fun heq => hnodup.1 (heq ▸ mem_map_of_mem h)
      rw [get?_cons_of_ne d hne, ih hnodup.2 h]

theorem exists_get? (h : k ∈ keys d) : ∃ v, get? d k = some v := by
  induction d with
  | nil => cases h
  | cons p d ih =>
    by_cases hk : k = p.1
    · exact ⟨p.2, hk ▸ get?_cons_self p.1 p.2 d⟩
    · obtain ⟨v, hv⟩ := ih ((mem_cons.mp h).resolve_left hk)
      exact ⟨v, by rw [get?_cons_of_ne d hk, hv]⟩

theorem set_of_not_mem (v : α) (h : k ∉ keys d) : set d k v = d ++ [(k, v)] := by
  induction d with
  | nil => rfl
  | cons p d ih =>
    have hk : k ≠ p.1 := fun hk => h (hk ▸ mem_cons_self)
    rw [set_cons_of_ne d v hk, ih fun hd => h (mem_cons_of_mem _ hd)]
    rfl

theorem keys_set_of_not_mem (v : α) (h : k ∉ keys d) : keys (set d k v) = keys d ++ [k] := by
  rw [set_of_not_mem v h, keys, map_append]
  rfl

theorem set_of_get? (h : get? d k = some v) : set d k v = d := by
  induction d with
  | nil => cases h
  | cons p d ih =>
    by_cases hk : k = p.1
    · subst hk
      rw [get?_cons_self] at h
      rw [set_cons_self, ← Option.some.inj h]
    · rw [get?_cons_of_ne d hk] at h
      rw [set_cons_of_ne d v hk, ih h]

theorem foldl_set_cons_of_ne (h : p.1 ∉ keys values) : values.foldl (fun d q => set d q.1 q.2) (p :: d) =
      p :: values.foldl (fun d q => set d q.1 q.2) d := by
  induction values generalizing d with
  | nil => rfl
  | cons q values ih =>
    rw [keys_cons, mem_cons, not_or] at h
    rw [foldl_cons, foldl_cons, set_cons_of_ne d q.2 (Ne.symm h.1), ih h.2]

theorem foldl_set_of_keys_eq (hkeys : keys values = keys d)
    (hnodup : (keys values).Nodup) : values.foldl (fun d q => set d q.1 q.2) d = values := by
  induction values generalizing d with
  | nil =>
    obtain rfl : d = [] := map_eq_nil_iff.mp hkeys.symm
    rfl
  | cons p values ih =>
    rw [keys_cons, nodup_cons] at hnodup
    cases d with
    | nil => cases hkeys
    | cons q d =>
      rw [keys_cons, keys_cons, List.cons.injEq] at hkeys
      obtain ⟨hkey, hkeys⟩ := hkeys
      have hset : set (q :: d) p.1 p.2 = p :: d := by
        rw [hkey, set_cons_self, ← hkey]
      rw [foldl_cons, hset, foldl_set_cons_of_ne hnodup.1, ih hkeys hnodup.2]

section

variable {β : Type}

theorem get?_map (f : α → β) (d : Dict κ α) (k : κ) : get? (d.map fun p => (p.1, f p.2)) k = (get? d k).map f := by
  induction d with
  | nil => rfl
  | cons p d ih =>
    rw [map_cons]
    by_cases hk : k = p.1
    · subst hk
      rw [get?_cons_self, get?_cons_self]
      rfl
    · rw [get?_cons_of_ne (p := (p.1, f p.2)) _ hk, get?_cons_of_ne d hk, ih]

theorem map_set (f : α → β) (d : Dict κ α) (k : κ) (v : α) :
    (set d k v).map (fun p => (p.1, f p.2)) = set (d.map fun p => (p.1, f p.2)) k (f v) := by
  induction d with
  | nil => rfl
  | cons p d ih =>
    rw [map_cons]
    by_cases hk : k = p.1
    · subst hk
      rw [set_cons_self, set_cons_self, map_cons]
    · rw [set_cons_of_ne d v hk, set_cons_of_ne (p := (p.1, f p.2)) _ _ hk, map_cons, ih]

end

end Dict
end StreamBot
