import Mathlib
import StreamBot.Database.Operation

/-! # Names in the database and in the bot

The bot puts all letters of a name into lower case, and the database ASCII letters only.  A name that the database finds
is still the same name for the bot (`lower_eq_of_sameName`), whatever its letters are: lower case consists of characters
that it leaves as they are (`Small`), because no run of the table of small letters leads into a run (`lowerRuns_apart`).
For names in ASCII both ways agree, so that they are found by themselves (`IsAscii.sameName`).
-/

namespace StreamBot.Text

open List

variable {s : String} {c d : Char}

/-- A character that lower case leaves as it is, wherever it stands. -/
structure Small (c : Char) : Prop where
  not_sigma : c.toNat ≠ 0x3A3
  lowerChar : lowerChar c = [c]

/-! ### The table of small letters -/

def CaseRun.proper (r : CaseRun) : Bool :=
  0 ≤ r.first + r.shift && (r.high < 0xD800 || 0xDFFF < r.low && r.high < 0x110000)

/-- No image of the one run is in the other: all lie before it, or behind it, or between its letters. -/
def CaseRun.apart (r q : CaseRun) : Bool :=
  Nat.blt r.high q.first || Nat.blt q.last r.low ||
    Nat.beq q.step 2 && (Nat.beq r.step 2 || Nat.beq r.first r.last) && Nat.beq ((r.low + q.first) % 2) 1

theorem CaseRun.isValidChar_of_proper {r : CaseRun} {n m : Nat} (h : r.proper) (hm : r.image? n = some m) :
    m.isValidChar := by
  rw [image?] at hm
  split at hm
  · rename_i hn
    obtain rfl : (n + r.shift).toNat = m := Option.some.inj hm
    simp only [proper, Bool.and_eq_true, Bool.or_eq_true, decide_eq_true_eq] at h
    rw [low, high] at h
    omega
  · cases hm

theorem CaseRun.image?_of_apart {r q : CaseRun} {n m : Nat} (hproper : r.proper) (h : r.apart q)
    (hm : r.image? n = some m) : q.image? m = none := by
  rw [image?] at hm
  split at hm
  · rename_i hn
    obtain ⟨hfirst, hlast, hstep⟩ := hn
    obtain rfl : (n + r.shift).toNat = m := Option.some.inj hm
    simp only [proper, Bool.and_eq_true, decide_eq_true_eq] at hproper
    simp only [apart, low, high, Bool.or_eq_true, Bool.and_eq_true, Nat.blt_eq, Nat.beq_eq] at h
    rw [image?, if_neg]
    rintro ⟨hqfirst, hqlast, hqstep⟩
    rcases h with (hbefore | hbehind) | ⟨⟨hq, hr | hr⟩, hodd⟩
    · omega
    · omega
    · rw [hq] at hqstep
      rw [hr] at hstep
      omega
    · rw [hq] at hqstep
      omega
  · cases hm

theorem lowerRuns_apart : ∀ r ∈ lowerRuns, r.proper ∧ ∀ q ∈ ⟨0x130, 0x130, 1, 0⟩ :: lowerRuns, r.apart q := by
  have hproper : lowerRuns.all CaseRun.proper := by decide +kernel
  have hapart : lowerRuns.all (fun r => (⟨0x130, 0x130, 1, 0⟩ :: lowerRuns).all r.apart) := by decide +kernel
  intro r hr
  exact ⟨all_eq_true.1 hproper r hr, all_eq_true.1 (all_eq_true.1 hapart r hr)⟩

theorem small_of_image?_eq_none (h : ∀ r ∈ lowerRuns, r.image? c.toNat = none) (hne : c.toNat ≠ 0x130) : Small c := by
  have houtside (r : CaseRun) (hr : r ∈ lowerRuns) (hstep : r.step = 1) : ¬(r.first ≤ c.toNat ∧ c.toNat ≤ r.last) := by
    intro hin
    have hnone := h r hr
    rw [CaseRun.image?, if_pos ⟨hin.1, hin.2, by rw [hstep, Nat.mod_one]⟩] at hnone
    cases hnone
  have hlatin := houtside ⟨0x41, 0x5A, 1, 32⟩ (by decide +kernel) rfl
  have hgreek := houtside ⟨0x3A3, 0x3AB, 1, 32⟩ (by decide +kernel) rfl
  have hsame : c.toLower = c := by
    rw [Char.toLower, dif_neg]
    intro hcapital
    exact hlatin ⟨UInt32.le_iff_toNat_le.1 hcapital.1, UInt32.le_iff_toNat_le.1 hcapital.2⟩
  refine ⟨fun hsigma => hgreek (by simp [hsigma]), ?_⟩
  rw [Text.lowerChar, hsame, if_neg hne, shifted, findSome?_eq_none_iff.2 h, ite_self]

theorem toNat_toLower_lt (c : Char) : c.toLower.toNat < 128 ↔ c.toNat < 128 := by
  unfold Char.toLower
  split
  · rename_i h
    have hle : c.val.toNat ≤ 90 := UInt32.le_iff_toNat_le.1 h.2
    have hshift : ('a'.val - 'A'.val).toNat = 32 := by decide
    simp only [Char.toNat, UInt32.toNat_add, hshift]
    omega
  · rfl

theorem small_toLower (h : c.toNat < 128) : Small c.toLower := by
  have hlower : c.toLower.toNat < 128 := (toNat_toLower_lt c).2 h
  exact ⟨by omega, by rw [lowerChar, if_pos hlower, Char.toLower_toLower_eq_toLower]⟩

theorem small_of_mem_lowerChar (h : d ∈ lowerChar c) : Small d := by
  rw [lowerChar] at h
  split at h
  · rename_i hascii
    obtain rfl := mem_singleton.1 h
    exact small_toLower hascii
  · split at h
    · simp only [mem_cons, not_mem_nil, or_false] at h
      rcases h with rfl | rfl <;> exact ⟨by decide, by decide +kernel⟩
    · rename_i hne
      obtain rfl := mem_singleton.1 h
      rw [shifted]
      split
      · rename_i n hsome
        obtain ⟨r, hr, hn⟩ := exists_of_findSome?_eq_some hsome
        obtain ⟨hproper, hapart⟩ := lowerRuns_apart r hr
        have hnone (q : CaseRun) (hq : q ∈ ⟨0x130, 0x130, 1, 0⟩ :: lowerRuns) : q.image? n = none :=
          CaseRun.image?_of_apart hproper (hapart q hq) hn
        have htoNat : (Char.ofNat n).toNat = n := by
          rw [Char.toNat_ofNat, if_pos (CaseRun.isValidChar_of_proper hproper hn)]
        refine small_of_image?_eq_none ?_ ?_
        · intro q hq
          rw [htoNat]
          exact hnone q (mem_cons_of_mem _ hq)
        · rw [htoNat]
          rintro rfl
          cases hnone _ mem_cons_self
      · rename_i hnone
        exact small_of_image?_eq_none (findSome?_eq_none_iff.1 hnone) hne

/-! ### Texts -/

theorem small_of_mem_lowerFrom {before cs : List Char} (h : d ∈ lowerFrom before cs) : Small d := by
  induction cs generalizing before with
  | nil => cases h
  | cons c rest ih =>
    rcases mem_append.1 h with hhead | htail
    · split at hhead
      · obtain rfl := mem_singleton.1 hhead
        split <;> exact ⟨by decide, by decide +kernel⟩
      · exact small_of_mem_lowerChar hhead
    · exact ih htail

theorem lowerFrom_eq_map {before cs : List Char} (h : ∀ c ∈ cs, Small c.toLower) :
    lowerFrom before cs = cs.map Char.toLower := by
  induction cs generalizing before with
  | nil => rfl
  | cons c rest ih =>
    obtain ⟨hc, hrest⟩ := forall_mem_cons.1 h
    rw [lowerFrom, ih hrest, map_cons]
    by_cases hascii : c.toNat < 128
    · rw [if_neg (by omega), lowerChar, if_pos hascii]
      rfl
    · have hsame : c.toLower = c := by
        rw [Char.toLower, dif_neg]
        intro hcapital
        have hle : c.toNat ≤ 90 := UInt32.le_iff_toNat_le.1 hcapital.2
        omega
      rw [hsame] at hc ⊢
      rw [if_neg hc.not_sigma, hc.lowerChar]
      rfl

theorem lower_eq_of_sameName {stored wanted : String} (h : Database.sameName stored wanted) :
    Text.lower stored = Text.lower wanted := by
  have heq : lowerAscii stored = Text.lower wanted := by simpa [Database.sameName] using h
  have hlist : stored.toList.map Char.toLower = lowerFrom [] wanted.toList := by
    have htext := congrArg String.toList heq
    rwa [lowerAscii, lower, String.toList_ofList, String.toList_ofList] at htext
  have hsmall : ∀ c ∈ stored.toList, Small c.toLower := by
    intro c hc
    have hmem : c.toLower ∈ lowerFrom [] wanted.toList := hlist ▸ mem_map_of_mem hc
    exact small_of_mem_lowerFrom hmem
  rw [← heq, lower, lowerFrom_eq_map hsmall, lowerAscii]

/-! ### Texts in ASCII -/

def IsAscii (s : String) : Prop := ∀ c ∈ s.toList, c.toNat < 128

instance (s : String) : Decidable (IsAscii s) := List.decidableBAll (fun c : Char => c.toNat < 128) s.toList

theorem IsAscii.lower (h : IsAscii s) : Text.lower s = lowerAscii s := by
  rw [Text.lower, lowerFrom_eq_map fun c hc => small_toLower (h c hc), lowerAscii]

theorem isAscii_lowerAscii : IsAscii (lowerAscii s) ↔ IsAscii s := by
  simp [IsAscii, lowerAscii, toNat_toLower_lt]

theorem IsAscii.dropLeading (h : IsAscii s) (c : Char) : IsAscii (dropLeading c s) := by
  intro d hd
  rw [Text.dropLeading, String.toList_ofList] at hd
  exact h d ((dropWhile_sublist _).mem hd)

theorem IsAscii.sameName (h : IsAscii s) : Database.sameName s s := by
  rw [Database.sameName, h.lower, beq_self_eq_true]

end StreamBot.Text
