import Dynamo.Decimal.Binary
import Mathlib

/-! # What rounds to zero

The smallest binary number of 64 bits is `2^-1074`. A decimal is rounded to a zero if and only if it is
not above the half of that, `2^-1075` (`Double.isZero_ofDecimal`): the half itself is as near to zero,
which is even. -/

namespace Dynamo.Decimal

theorem zpow_eq_div (b : ℚ) (k : ℤ) : b ^ k = b ^ k.toNat / b ^ (-k).toNat := by
  rcases le_total 0 k with hk | hk
  · have hneg : (-k).toNat = 0 := by omega
    rw [hneg, pow_zero, div_one, ← zpow_natCast, Int.toNat_of_nonneg hk]
  · have hpos : k.toNat = 0 := by omega
    rw [hpos, pow_zero, one_div, ← zpow_natCast, Int.toNat_of_nonneg (by omega), ← zpow_neg,
      neg_neg]

namespace Layout

/-! ### Rounding a quotient -/

/-- No power of two is taken that is greater than the quotient. -/
theorem two_zpow_floorLog2_le {num den : ℕ} (hnum : num ≠ 0) (hden : den ≠ 0) :
    (2 : ℚ) ^ floorLog2 num den ≤ num / den := by
  have hden' : (0 : ℚ) < den := by exact_mod_cast Nat.pos_of_ne_zero hden
  unfold floorLog2
  dsimp only
  generalize hk : (num.log2 : ℤ) - (den.log2 : ℤ) = k
  split_ifs with hlt
  · -- the quotient of the powers of two below is at most twice too great
    have hlow : ((2 ^ num.log2 : ℕ) : ℚ) ≤ num := by exact_mod_cast Nat.log2_self_le hnum
    have hhigh : (den : ℚ) ≤ ((2 ^ (den.log2 + 1) : ℕ) : ℚ) := by
      exact_mod_cast Nat.le_of_lt Nat.lt_log2_self
    have hsplit : (2 : ℚ) ^ (k - 1) * ((2 ^ (den.log2 + 1) : ℕ) : ℚ) =
        ((2 ^ num.log2 : ℕ) : ℚ) := by
      push_cast
      rw [← zpow_natCast, ← zpow_natCast, ← zpow_add₀ two_ne_zero]
      congr 1
      push_cast
      omega
    rw [le_div_iff₀ hden']
    calc (2 : ℚ) ^ (k - 1) * den ≤ 2 ^ (k - 1) * ((2 ^ (den.log2 + 1) : ℕ) : ℚ) := by gcongr
      _ = ((2 ^ num.log2 : ℕ) : ℚ) := hsplit
      _ ≤ num := hlow
  · have hle : (den : ℚ) * 2 ^ k.toNat ≤ num * 2 ^ (-k).toNat := by exact_mod_cast not_lt.mp hlt
    rw [zpow_eq_div, div_le_div_iff₀ (by positivity) hden', mul_comm]
    exact hle

theorem roundDiv_eq_zero_iff {num den : ℕ} (hden : den ≠ 0) :
    roundDiv num den = 0 ↔ 2 * num ≤ den := by
  unfold roundDiv
  dsimp only
  by_cases hlt : num < den
  · rw [Nat.div_eq_of_lt hlt, Nat.mod_eq_of_lt hlt]
    split_ifs
    · omega
    · exact iff_of_false id (by omega)
    · omega
  · have hdiv : 0 < num / den := Nat.div_pos (not_lt.mp hlt) (Nat.pos_of_ne_zero hden)
    split_ifs
    · omega
    · exact iff_of_false id (by omega)
    · omega

/-- **What is rounded to a zero**: what is not above the half of the smallest number. -/
theorem exists_nearest {l : Layout} (hpower : l.leastPower ≤ 0) (htop : 0 < l.infinityBits)
    (negative : Bool) (num : ℕ) {den : ℕ} (hden : den ≠ 0) :
    ∃ magnitude, l.nearest negative num den = l.signBits negative + magnitude ∧
      magnitude ≤ l.infinityBits ∧
      (magnitude = 0 ↔ (num : ℚ) / den ≤ 2 ^ (l.leastPower - 1)) := by
  have hden' : (0 : ℚ) < den := by exact_mod_cast Nat.pos_of_ne_zero hden
  unfold nearest
  dsimp only
  split_ifs with hnum
  · refine ⟨0, rfl, Nat.zero_le _, iff_of_true rfl ?_⟩
    rw [hnum, Nat.cast_zero, zero_div]
    positivity
  · refine ⟨_, rfl, min_le_right _ _, ?_⟩
    rcases le_or_gt (floorLog2 num den - l.fractionBits) l.leastPower with hle | hlt
    · -- the number is not above the smallest ones, which are all multiples of one power of two
      have hzero : l.leastPower.toNat = 0 := by omega
      have hhalf : (1 - l.leastPower).toNat = (-l.leastPower).toNat + 1 := by omega
      have hneg : (l.leastPower - 1).toNat = 0 := by omega
      have hround : roundDiv (num * Nat.pow 2 (-l.leastPower).toNat) den = 0 ↔
          2 * (num * Nat.pow 2 (-l.leastPower).toNat) ≤ den := roundDiv_eq_zero_iff hden
      rw [max_eq_right hle, hzero, sub_self, Int.toNat_zero, Nat.zero_mul, Nat.zero_add]
      rw [show den * Nat.pow 2 0 = den from Nat.mul_one den, zpow_eq_div, hneg, neg_sub, hhalf,
        pow_zero, div_le_div_iff₀ hden' (by positivity), one_mul]
      have hcast : (num : ℚ) * 2 ^ ((-l.leastPower).toNat + 1) ≤ den ↔
          2 * (num * Nat.pow 2 (-l.leastPower).toNat) ≤ den := by
        rw [← Nat.cast_le (α := ℚ)]
        push_cast [Nat.pow_eq]
        rw [pow_succ, mul_comm (2 : ℚ) (num * _), mul_assoc]
      rw [hcast, ← hround]
      omega
    · have hpos : 0 < (floorLog2 num den - l.fractionBits - l.leastPower).toNat := by omega
      have hbits : 0 < (floorLog2 num den - l.fractionBits - l.leastPower).toNat *
          Nat.pow 2 l.fractionBits := Nat.mul_pos hpos (Nat.pow_pos Nat.zero_lt_two)
      rw [max_eq_left hlt.le]
      refine iff_of_false (by omega) (not_le.mpr ?_)
      calc (2 : ℚ) ^ (l.leastPower - 1) < 2 ^ floorLog2 num den :=
            zpow_lt_zpow_right₀ one_lt_two (by omega)
        _ ≤ num / den := two_zpow_floorLog2_le hnum hden

end Layout

/-! ### The zeros -/

namespace Double

/-- The zeros are the numbers without any bit but that of the sign. -/
theorem isZero_iff {x : Double} : x.isZero = true ↔ x.bits.toNat % 2 ^ 63 = 0 := by
  unfold isZero parts Layout.parts Layout.topExponent binary64
  dsimp only
  norm_num
  generalize x.bits.toNat = bits
  split_ifs
  · exact iff_of_false nofun (by omega)
  · exact iff_of_false nofun (by omega)
  · rw [decide_eq_true_iff]
    omega
  · rw [decide_eq_true_iff]
    omega

theorem leastPower_binary64 : binary64.leastPower = -1074 := by decide

theorem infinityBits_binary64 : binary64.infinityBits = 2047 * 2 ^ 52 := by decide

/-- Signed bits are those of a zero if and only if there are none. -/
theorem isZero_signBits {negative : Bool} {magnitude : ℕ} (h : magnitude ≤ binary64.infinityBits) :
    isZero ⟨UInt64.ofNat (binary64.signBits negative + magnitude)⟩ = true ↔ magnitude = 0 := by
  rw [infinityBits_binary64] at h
  have hsign : binary64.signBits negative = 0 ∨ binary64.signBits negative = 2 ^ 63 := by
    cases negative with
    | false => exact .inl rfl
    | true => exact .inr rfl
  rw [isZero_iff, UInt64.toNat_ofNat']
  omega

theorem isZero_ofRatio (negative : Bool) (num : ℕ) {den : ℕ} (hden : den ≠ 0) :
    (ofRatio negative num den).isZero = true ↔ (num : ℚ) / den ≤ 1 / 2 ^ 1075 := by
  obtain ⟨magnitude, hbits, htop, hzero⟩ := Layout.exists_nearest (l := binary64)
    (by decide) (by decide) negative num hden
  have hhalf : (2 : ℚ) ^ (binary64.leastPower - 1) = 1 / 2 ^ 1075 := by
    rw [leastPower_binary64, one_div]
    rfl
  rw [ofRatio, hbits, isZero_signBits htop, hzero, hhalf]

/-- The number of digits tells how great a number is. -/
theorem lt_ten_pow_length (m : ℕ) : m < 10 ^ (Nat.toDigits 10 m).length :=
  (Nat.length_toDigits_le_iff (by decide) Nat.length_toDigits_pos).mp le_rfl

theorem ten_pow_length_le {m : ℕ} (hm : m ≠ 0) : 10 ^ ((Nat.toDigits 10 m).length - 1) ≤ m := by
  by_contra hlt
  rcases Nat.eq_zero_or_pos ((Nat.toDigits 10 m).length - 1) with hone | hpos
  · rw [hone] at hlt
    omega
  · have hle := (Nat.length_toDigits_le_iff (by decide) hpos).mpr (not_le.mp hlt)
    omega

theorem two_pow_le_ten_pow : (2 : ℚ) ^ 1075 ≤ 10 ^ 330 :=
  calc (2 : ℚ) ^ 1075 ≤ 2 ^ (33 * 33) := pow_le_pow_right₀ one_le_two (by decide)
    _ = (2 ^ 33) ^ 33 := pow_mul _ _ _
    _ ≤ (10 ^ 10) ^ 33 := pow_le_pow_left₀ (by positivity) (by norm_num) _
    _ = 10 ^ 330 := (pow_mul _ _ _).symm

/-- **A decimal rounds to a zero** if and only if it is not above the half of the smallest number. -/
theorem isZero_ofDecimal (negative : Bool) (m : ℕ) (e : ℤ) :
    (ofDecimal negative m e).isZero = true ↔ (m : ℚ) * 10 ^ e ≤ 1 / 2 ^ 1075 := by
  have hlength : 0 < (Nat.toDigits 10 m).length := Nat.length_toDigits_pos
  have hratio : (m : ℚ) * 10 ^ e =
      ((m * Nat.pow 10 e.toNat : ℕ) : ℚ) / (Nat.pow 10 (-e).toNat : ℕ) := by
    rw [zpow_eq_div]
    push_cast [Nat.pow_eq]
    rw [mul_div_assoc]
  unfold ofDecimal
  dsimp only
  split_ifs with hsmall hgreat
  · rw [isZero_ofRatio negative 0 one_ne_zero, Nat.cast_zero, zero_div]
    refine iff_of_true (by positivity) ?_
    rcases hsmall with rfl | hsmall
    · rw [Nat.cast_zero, zero_mul]
      positivity
    · have hm : (m : ℚ) ≤ 10 ^ ((Nat.toDigits 10 m).length : ℤ) := by
        rw [zpow_natCast]
        exact_mod_cast (lt_ten_pow_length m).le
      calc (m : ℚ) * 10 ^ e ≤ 10 ^ ((Nat.toDigits 10 m).length : ℤ) * 10 ^ e := by gcongr
        _ = 10 ^ ((Nat.toDigits 10 m).length + e) := (zpow_add₀ (by norm_num) _ _).symm
        _ ≤ 10 ^ (-330 : ℤ) := zpow_le_zpow_right₀ (by norm_num) hsmall.le
        _ = 1 / 10 ^ 330 := by rw [zpow_neg, one_div]; rfl
        _ ≤ 1 / 2 ^ 1075 := one_div_le_one_div_of_le (by positivity) two_pow_le_ten_pow
  · have hm : m ≠ 0 := fun h => hsmall (.inl h)
    have hle : (10 : ℚ) ^ (((Nat.toDigits 10 m).length : ℤ) - 1) ≤ m := by
      rw [← Nat.cast_pred hlength, zpow_natCast]
      exact_mod_cast ten_pow_length_le hm
    rw [isZero_signBits le_rfl]
    refine iff_of_false (by decide) (not_le.mpr ?_)
    calc (1 : ℚ) / 2 ^ 1075 < 10 ^ (0 : ℤ) := by
          rw [zpow_zero, div_lt_one (by positivity)]
          exact one_lt_pow₀ one_lt_two (by decide)
      _ ≤ 10 ^ (((Nat.toDigits 10 m).length : ℤ) - 1 + e) :=
          zpow_le_zpow_right₀ (by norm_num) (by omega)
      _ = 10 ^ (((Nat.toDigits 10 m).length : ℤ) - 1) * 10 ^ e := zpow_add₀ (by norm_num) _ _
      _ ≤ m * 10 ^ e := by gcongr
  · have hden : Nat.pow 10 (-e).toNat ≠ 0 := (Nat.pow_pos (by decide)).ne'
    rw [isZero_ofRatio negative _ hden, hratio]

end Double

end Dynamo.Decimal
