import Mathlib
import StreamBot.Decimal.Numeral

/-! # Doubles from decimals

A positive double has one form `m · 2 ^ e` with a full mantissa or the least exponent (`Normal`), and the nearest double to
such a number is the number itself (`nearestBits_eq`).  The shortest decimal of a double is looked for among those that are
read as the double, so it is read as the double again (`shortest_reads`).

A double is kept as a word of 64 bits.  These are the bits of the form that it is taken apart into
(`toBits_of_ofFloat`), so what is read with these bits is the double (`ofDecimal_eq`).
-/

namespace StreamBot.Decimal

open Nat

variable {m digits n : ℕ} {e exponent : ℤ} {v : ℚ}

/-- A positive double in its only form: with a full mantissa or the least exponent. -/
structure Normal (m : ℕ) (e : ℤ) : Prop where
  pos : 0 < m
  lt : m < 2 ^ 53
  least : -1074 ≤ e
  greatest : e ≤ 971
  full : 2 ^ 52 ≤ m ∨ e = -1074

/-! ### The nearest double -/

theorem two_zpow_pos (e : ℤ) : (0 : ℚ) < 2 ^ e := zpow_pos (by norm_num) e

theorem two_zpow_add (a b : ℤ) : (2 : ℚ) ^ (a + b) = 2 ^ a * 2 ^ b := zpow_add₀ (by norm_num) a b

theorem log2_bounds (hn : 0 < n) : (2 : ℚ) ^ (n.log2 : ℤ) ≤ n ∧ (n : ℚ) < 2 ^ ((n.log2 : ℤ) + 1) :=
  ⟨by exact_mod_cast log2_self_le hn.ne', by exact_mod_cast lt_log2_self⟩

theorem log2Floor_spec (hv : 0 < v) : 2 ^ log2Floor v ≤ v ∧ v < 2 ^ (log2Floor v + 1) := by
  obtain ⟨hnum, hnum'⟩ := log2_bounds (Int.natAbs_pos.2 (Rat.num_pos.2 hv).ne')
  obtain ⟨hden, hden'⟩ := log2_bounds v.den_pos
  have hvalue : v * v.den = v.num.natAbs := by
    rw [Nat.cast_natAbs, abs_of_pos (Rat.num_pos.2 hv), Rat.mul_den_eq_num]
  unfold log2Floor
  generalize v.num.natAbs.log2 = a at *
  generalize (v.den.log2 : ℤ) = b at *
  have hhigh : v < 2 ^ (a - b + 1) := by
    rw [show a - b + 1 = a + 1 - b by ring, zpow_sub₀ two_ne_zero, lt_div_iff₀ (two_zpow_pos b)]
    exact (mul_le_mul_of_nonneg_left hden hv.le).trans_lt (hvalue ▸ hnum')
  have hlow : 2 ^ (a - b - 1) ≤ v := by
    rw [show a - b - 1 = a - (b + 1) by ring, zpow_sub₀ two_ne_zero, div_le_iff₀ (two_zpow_pos _)]
    exact (hvalue ▸ hnum).trans (mul_le_mul_of_nonneg_left hden'.le hv.le)
  dsimp only
  split
  · next hle => exact ⟨hle, hhigh⟩
  · next hlt => exact ⟨hlow, by simpa using hlt⟩

theorem nearestNat_natCast (n : ℕ) : nearestNat n = n := by
  have hfloor : (n : ℚ).floor = n := by simp [Rat.floor]
  simp [nearestNat, hfloor]

theorem nearestBits_eq (h : Normal m e) : nearestBits (m * 2 ^ e) = bitsOf m e := by
  have hpos : (0 : ℚ) < m * 2 ^ e := mul_pos (by exact_mod_cast h.pos) (two_zpow_pos e)
  obtain ⟨hlow, hhigh⟩ := log2Floor_spec hpos
  have hupper : (m * 2 ^ e : ℚ) < 2 ^ (53 + e) := by
    rw [two_zpow_add]
    exact mul_lt_mul_of_pos_right (by exact_mod_cast h.lt) (two_zpow_pos e)
  have hle : log2Floor (m * 2 ^ e) < 53 + e := (zpow_lt_zpow_iff_right₀ (by norm_num)).1 (hlow.trans_lt hupper)
  have hexponent : max (log2Floor (m * 2 ^ e) - 52) (-1074) = e := by
    rcases h.full with hfull | rfl
    · have hlower : (2 : ℚ) ^ (52 + e) ≤ m * 2 ^ e := by
        rw [two_zpow_add]
        exact mul_le_mul_of_nonneg_right (by exact_mod_cast hfull) (two_zpow_pos e).le
      have hge : 52 + e < log2Floor (m * 2 ^ e) + 1 := (zpow_lt_zpow_iff_right₀ (by norm_num)).1 (hlower.trans_lt hhigh)
      have := h.least
      omega
    · omega
  have hfinite : bitsOf m e ≤ infinityBits := by
    have hlt := h.lt
    have hgreatest := h.greatest
    have hpower : powerOfTwo 52 = 2 ^ 52 := rfl
    rw [bitsOf, infinityBits, hpower]
    omega
  rw [nearestBits, hexponent, mul_div_cancel_right₀ _ (two_zpow_pos e).ne', nearestNat_natCast, min_eq_left hfinite]

/-! ### Decimals -/

theorem decimalBits_shift (digits : ℕ) (hn : n ≤ 2048) :
    decimalBits (digits * 10 ^ (n + 1)) (-1) = decimalBits digits n := by
  rcases digits.eq_zero_or_pos with rfl | hpos
  · simp [decimalBits]
  have hshifted : 0 < digits * 10 ^ (n + 1) := by positivity
  have hvalue : ((digits * 10 ^ (n + 1) : ℕ) : ℚ) * 10 ^ (-1 : ℤ) = digits * 10 ^ (n : ℤ) := by
    rw [zpow_natCast]
    push_cast
    field_simp
    ring
  rw [decimalBits, decimalBits, hvalue, if_neg (by omega), if_neg (by omega), if_neg (by omega), if_neg (by omega)]

theorem decimalBits_of_exact (h : Normal m e) (hvalue : (digits * 10 ^ exponent : ℚ) = m * 2 ^ e)
    (hleast : -2048 ≤ exponent) (hgreatest : exponent ≤ 2048) : decimalBits digits exponent = bitsOf m e := by
  have hdigits : digits ≠ 0 := by
    rintro rfl
    have hpos : (0 : ℚ) < m * 2 ^ e := mul_pos (by exact_mod_cast h.pos) (two_zpow_pos e)
    simp [← hvalue] at hpos
  rw [decimalBits, if_neg (by omega), if_neg (by omega), hvalue, nearestBits_eq h]

theorem exactDecimal_reads (h : Normal m e) : decimalBits (exactDecimal m e).1 (exactDecimal m e).2 = bitsOf m e := by
  have hleast := h.least
  unfold exactDecimal powerOfTwo
  split
  · next he =>
    obtain ⟨n, rfl⟩ := Int.eq_ofNat_of_zero_le he
    exact decimalBits_of_exact h (by simp) (by simp) (by simp)
  · next he =>
    obtain ⟨n, rfl⟩ : ∃ n : ℕ, e = -n := ⟨(-e).toNat, by omega⟩
    refine decimalBits_of_exact h ?_ (by omega) (by omega)
    have hten : (10 : ℚ) ^ n = 5 ^ n * 2 ^ n := by rw [← mul_pow]; norm_num
    simp only [neg_neg, Int.toNat_natCast, zpow_neg, zpow_natCast, Nat.pow_eq]
    push_cast
    rw [hten]
    field_simp

/-- The shortest decimal of a double is read as the double: what is found has been tried, and otherwise it is exact. -/
theorem shortest_reads (h : Normal m e) : decimalBits (shortest m e).1 (shortest m e).2 = bitsOf m e := by
  unfold shortest
  cases hfound : (List.range 17).findSome? fun n => candidate? m e (n + 1) with
  | none => exact exactDecimal_reads h
  | some found =>
    obtain ⟨n, -, hn⟩ := List.exists_of_findSome?_eq_some hfound
    simpa using List.find?_some hn

/-! ### Words -/

open Float.Model Float.Model.UnpackedFloat

variable {x : Float} {negative : Bool}

theorem ofBits_toBits (x : Float) : Float.ofBits x.toBits = x := by
  obtain ⟨⟨⟨bits⟩, hvalid⟩⟩ := x
  simp only [Float.ofBits, Float.toBits, Float.Model.ofBits, Float.Model.pack, pack_unpack_of_valid hvalid]

theorem toBits_of_ofFloat (h : Binary.ofFloat x = .finite negative m e) :
    x.toBits.toNat = (if negative then powerOfTwo 63 else 0) + bitsOf m e ∧ (m = 0 ∧ e = -1074 ∨ Normal m e) := by
  have hlt := x.toBits.toNat_lt
  have hpowers : powerOfTwo 52 = 2 ^ 52 ∧ powerOfTwo 63 = 2 ^ 63 ∧ powerOfTwo 11 = 2 ^ 11 := ⟨rfl, rfl, rfl⟩
  simp only [Binary.ofFloat, bitsOf, hpowers] at h ⊢
  generalize x.toBits.toNat = bits at *
  split at h
  · split at h <;> cases h
  · split at h <;> cases h
    · refine ⟨?_, (bits % 2 ^ 52).eq_zero_or_pos.imp (⟨·, rfl⟩) (⟨·, by omega, by omega, by omega, .inr rfl⟩)⟩
      by_cases hsign : 2 ^ 63 ≤ bits <;> simp only [hsign, decide_true, decide_false, if_true, Bool.false_eq_true, if_false] <;>
        omega
    · refine ⟨?_, .inr ⟨by omega, by omega, by omega, by omega, .inl (by omega)⟩⟩
      by_cases hsign : 2 ^ 63 ≤ bits <;> simp only [hsign, decide_true, decide_false, if_true, Bool.false_eq_true, if_false] <;>
        omega

theorem isFinite_iff : x.isFinite ↔ ∃ negative m e, Binary.ofFloat x = .finite negative m e := by
  have hexponent : @unpackExponent .binary64 x.toBits.toBitVec = -1#11 ↔ x.toBits.toNat / 2 ^ 52 % 2 ^ 11 = 2047 := by
    rw [← BitVec.toNat_inj, unpackExponent_def, BitVec.extractLsb'_toNat, shiftRight_eq_div_pow]
    rfl
  change (UnpackedFloat.unpack .binary64 x.toBits.toBitVec).isFinite ↔ _
  have hpowers : powerOfTwo 52 = 2 ^ 52 ∧ powerOfTwo 11 = 2 ^ 11 := ⟨rfl, rfl⟩
  simp only [UnpackedFloat.unpack, Binary.ofFloat, hpowers, ← hexponent]
  by_cases hones : @unpackExponent .binary64 x.toBits.toBitVec = -1#11
  · simp only [if_pos hones]
    split <;> split <;> simp [UnpackedFloat.isFinite]
  · simp only [if_neg hones]
    refine iff_of_true ?_ ?_
    · split
      · split <;> rfl
      · rfl
    · split <;> exact ⟨_, _, _, rfl⟩

theorem ofDecimal_eq (h : Binary.ofFloat x = .finite negative m e)
    (hbits : decimalBits digits exponent = bitsOf m e) : ofDecimal negative digits exponent = x := by
  rw [ofDecimal, hbits, ← (toBits_of_ofFloat h).1, UInt64.ofNat_toNat, ofBits_toBits]

end StreamBot.Decimal
