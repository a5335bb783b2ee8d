import DesignTokens.Proofs.Decimal.Nearest
import DesignTokens.Proofs.Decimal.Bits

/-!
# Finite doubles

Whole numbers of up to 64 bits are far from the largest double, so the doubles
nearest to them are finite.
-/

namespace DesignTokens.Decimal

open Float.Model

/-- Bits whose exponent is not full are kept by the double that they make. -/
theorem toBits_ofBits {b : UInt64} (partly : b.toNat / 2 ^ 52 % 2 ^ 11 ≠ 2047) :
    (Float.ofBits b).toBits = b := by
  have exponent : @UnpackedFloat.unpackExponent .binary64 b.toBitVec ≠ -1#_ := by
    intro full
    have value := congrArg BitVec.toNat full
    rw [toNat_unpackExponent] at value
    exact partly value
  have bits := pack_unpack exponent
  simp only [Float.ofBits, Float.toBits, Float.Model.ofBits, Float.Model.pack, bits]

theorem isFinite_ofBits {b : UInt64} (partly : b.toNat / 2 ^ 52 % 2 ^ 11 ≠ 2047) :
    isFinite (Float.ofBits b) = true := by
  rw [isFinite_iff, toBits_ofBits partly]
  exact partly

/-! ## Whole numbers -/

theorem roundHalfEven_le (numerator denominator : Nat) :
    roundHalfEven numerator denominator ≤ numerator / denominator + 1 := by
  simp only [roundHalfEven]
  split
  · omega
  · split
    · exact le_rfl
    · have := Nat.mod_lt (numerator / denominator) Nat.two_pos
      omega

/-- The bits of a fraction of moderate size. -/
theorem fractionBits_le {f : Fraction} (numerator : 0 < f.numerator)
    (denominator : 0 < f.denominator) (small : f.value < 2 ^ (65 : Int)) :
    fractionBits f ≤ 1100 * 2 ^ 52 := by
  obtain ⟨low, high⟩ := exponentOf_bounds numerator denominator
  have below : exponentOf f + 52 < 65 :=
    (zpow_lt_zpow_iff_right₀ (by norm_num : (1 : ℚ) < 2)).mp (lt_of_le_of_lt low small)
  have least : leastExponent = -1074 := rfl
  rw [fractionBits_unfold]
  generalize bounded : max (exponentOf f) leastExponent = e
  have positive := denominator_scaledDown_pos denominator e
  -- The quotient that is rounded stays below `2 ^ 53`.
  have quotient : (scaledDown f e).numerator / (scaledDown f e).denominator < 2 ^ 53 := by
    rw [Nat.div_lt_iff_lt_mul positive]
    have value : (scaledDown f e).value < 2 ^ 53 := by
      rw [value_scaledDown, div_lt_iff₀ (two_zpow_pos e)]
      calc f.value < 2 ^ (exponentOf f + 53) := high
        _ ≤ 2 ^ (53 + e) := zpow_le_zpow_right₀ (by norm_num) (by omega)
        _ = 2 ^ 53 * 2 ^ e := by rw [zpow_add₀ (by norm_num)]; norm_num
    rw [Fraction.value, div_lt_iff₀ (by exact_mod_cast positive)] at value
    exact_mod_cast value
  have rounded := roundHalfEven_le (scaledDown f e).numerator (scaledDown f e).denominator
  refine (min_le_right _ _).trans ?_
  simp only [Nat.pow_eq]
  omega

/-- The double of a whole number of up to 64 bits is finite. -/
theorem isFinite_floatOfInt {n : Int} (small : n.natAbs ≤ 2 ^ 64) :
    isFinite (floatOfInt n) = true := by
  have magnitude : ∃ m ≤ 1100 * 2 ^ 52, floatOfInt n
      = Float.ofBits (UInt64.ofNat (m + if n < 0 then Nat.pow 2 63 else 0)) := by
    simp only [floatOfInt, nearest, decide_eq_true_eq]
    -- Of the short cuts only the one for zero is taken, since the number has few digits.
    split
    · exact ⟨0, Nat.zero_le _, rfl⟩
    · rename_i large
      have positive : 0 < n.natAbs := by omega
      have bound : (n.natAbs : ℚ) ≤ 2 ^ (64 : Int) := by exact_mod_cast small
      rw [if_neg]
      · refine ⟨_, fractionBits_le (Fraction.numerator_scaled_pos positive (by norm_num) 0)
          (Fraction.denominator_scaled_pos _ (by norm_num) 0) ?_, rfl⟩
        rw [Fraction.value_scaled, zpow_zero, mul_one]
        exact bound.trans_lt (by norm_num)
      · intro long
        have least := lt_of_starts_early positive long
        have powers : (2 : ℚ) ^ (64 : Int) ≤ 2 ^ (1024 : Int) :=
          zpow_le_zpow_right₀ (by norm_num) (by norm_num)
        rw [zpow_zero, mul_one] at least
        exact absurd (bound.trans powers) (not_le.mpr least)
  obtain ⟨m, bound, bits⟩ := magnitude
  rw [bits]
  apply isFinite_ofBits
  rw [UInt64.toNat_ofNat']
  simp only [Nat.pow_eq]
  split <;> omega

end DesignTokens.Decimal
