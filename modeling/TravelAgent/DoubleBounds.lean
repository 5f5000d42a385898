import Mathlib
import TravelAgent.PyFloats

namespace TravelAgent.DoubleBounds

open TravelAgent.PyFloats

theorem abs_roundEven_sub_le (q : ℚ) : |(roundEven q : ℚ) - q| ≤ 1 / 2 := by
  have hfloor := Int.floor_le q
  have hlt := Int.lt_floor_add_one q
  rw [roundEven]
  by_cases h : 1 / 2 < q - ⌊q⌋ ∨ (q - ⌊q⌋ = 1 / 2 ∧ ⌊q⌋ % 2 ≠ 0)
  · rw [if_pos h, Int.cast_add, Int.cast_one, abs_le]
    have hhalf : 1 / 2 ≤ q - ⌊q⌋ := by
      obtain h | ⟨h, -⟩ := h
      · exact h.le
      · exact h.ge
    constructor
    · linarith
    · linarith
  · rw [if_neg h, abs_le]
    have hhalf : q - ⌊q⌋ ≤ 1 / 2 := by
      rw [not_or] at h
      exact not_lt.mp h.1
    constructor
    · linarith
    · linarith

/-- Below its leading power of two a number has one binary place more. -/
theorem low_iff {n d : ℕ} (hd : 0 < d) (top : ℤ) :
    (if 0 ≤ top then decide (n < d * 2 ^ top.toNat) else decide (n * 2 ^ (-top).toNat < d)) = true ↔
      (n : ℚ) / d < (2 : ℚ) ^ top := by
  have hd' : (0 : ℚ) < d := Nat.cast_pos.mpr hd
  rw [div_lt_iff₀ hd']
  by_cases h : 0 ≤ top
  · obtain ⟨m, rfl⟩ := Int.eq_ofNat_of_zero_le h
    rw [if_pos h, decide_eq_true_eq, Int.toNat_natCast, zpow_natCast, mul_comm]
    exact_mod_cast Iff.rfl
  · obtain ⟨m, hm⟩ := Int.eq_ofNat_of_zero_le (Int.neg_nonneg_of_nonpos (not_le.mp h).le)
    obtain rfl : top = -(m : ℤ) := by omega
    have hpow : (0 : ℚ) < 2 ^ m := by positivity
    rw [if_neg h, decide_eq_true_eq, neg_neg, Int.toNat_natCast, zpow_neg, zpow_natCast,
      inv_mul_eq_div, lt_div_iff₀ hpow]
    exact_mod_cast Iff.rfl

theorem lastExponent_le {n d : ℕ} (hn : 0 < n) (hd : 0 < d) {k : ℤ} (hk : -1021 ≤ k)
    (h : (n : ℚ) / d < (2 : ℚ) ^ k) : lastExponent n d ≤ k - 53 := by
  have hd' : (0 : ℚ) < d := Nat.cast_pos.mpr hd
  have hlow := low_iff (n := n) hd ((n.log2 : ℤ) - d.log2)
  apply max_le _ (by omega)
  by_cases hcase : (n : ℚ) / d < (2 : ℚ) ^ ((n.log2 : ℤ) - d.log2)
  · rw [hlow.mpr hcase, if_pos rfl]
    -- the quotient is more than half of that power
    have hhalf : (2 : ℚ) ^ ((n.log2 : ℤ) - d.log2 - 1) < (n : ℚ) / d := by
      have hnpow : (2 : ℚ) ^ n.log2 ≤ n := by exact_mod_cast Nat.log2_self_le hn.ne'
      have hdpow : (d : ℚ) < 2 ^ (d.log2 + 1) := by exact_mod_cast Nat.lt_log2_self
      rw [lt_div_iff₀ hd', sub_sub, zpow_sub₀ (by norm_num), ← Nat.cast_succ, zpow_natCast,
        zpow_natCast, div_mul_eq_mul_div, div_lt_iff₀ (by positivity)]
      have hpos : (0 : ℚ) < 2 ^ n.log2 := by positivity
      calc (2 : ℚ) ^ n.log2 * d < 2 ^ n.log2 * 2 ^ (d.log2 + 1) := mul_lt_mul_of_pos_left hdpow hpos
        _ ≤ n * 2 ^ (d.log2 + 1) := by gcongr
    have hexp := (zpow_lt_zpow_iff_right₀ (by norm_num : (1 : ℚ) < 2)).mp (hhalf.trans h)
    omega
  · have hfalse : ¬_ := fun htrue => hcase (hlow.mp htrue)
    rw [if_neg hfalse]
    have hexp := (zpow_lt_zpow_iff_right₀ (by norm_num : (1 : ℚ) < 2)).mp
      ((not_lt.mp hcase).trans_lt h)
    omega

/-- A double is at most half of the last binary place away. -/
theorem abs_nearest_sub_le {n d : ℕ} (hd : 0 < d) {k : ℤ} (hk : -1021 ≤ k)
    (h : (n : ℚ) / d < (2 : ℚ) ^ k) : |nearest n d - (n : ℚ) / d| ≤ (2 : ℚ) ^ (k - 54) := by
  obtain rfl | hn := Nat.eq_zero_or_pos n
  · have hzero : nearest 0 d = 0 := by simp [nearest, roundEven]
    rw [hzero, Nat.cast_zero, zero_div, sub_zero, abs_zero]
    positivity
  · have hunit : (0 : ℚ) < 2 ^ lastExponent n d := by positivity
    have hscaled : nearest n d - (n : ℚ) / d =
        (roundEven ((n : ℚ) / d / 2 ^ lastExponent n d) - (n : ℚ) / d / 2 ^ lastExponent n d) *
          2 ^ lastExponent n d := by
      rw [nearest, sub_mul, div_mul_cancel₀ _ hunit.ne']
    have hsmall : (2 : ℚ) ^ lastExponent n d ≤ 2 ^ (k - 53) :=
      zpow_le_zpow_right₀ (by norm_num) (lastExponent_le hn hd hk h)
    rw [hscaled, abs_mul, abs_of_pos hunit]
    calc |(roundEven ((n : ℚ) / d / 2 ^ lastExponent n d) : ℚ) -
            (n : ℚ) / d / 2 ^ lastExponent n d| * 2 ^ lastExponent n d
        ≤ 1 / 2 * 2 ^ (k - 53) := by
          gcongr
          exact abs_roundEven_sub_le _
      _ = 2 ^ (k - 54) := by
          rw [show k - 53 = k - 54 + 1 by ring, zpow_add_one₀ (by norm_num)]
          ring

end TravelAgent.DoubleBounds
