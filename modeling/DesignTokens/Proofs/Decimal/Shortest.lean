import DesignTokens.Proofs.Decimal.Exact

/-!
# Shortest decimals are near

The shortest decimal of a double lies in its interval.  Seventeen digits are
enough for this: the grid of the last of them is finer than the interval is
wide, so one of the two neighbours of the value is a hit.
-/

namespace DesignTokens.Decimal

/-! ## The first digit -/

theorem pow_digitCount_le {n : Nat} (positive : 0 < n) : 10 ^ (digitCount n - 1) ≤ n := by
  induction n using Nat.strongRecOn with
  | ind n ih =>
    rw [digitCount]
    split
    · exact positive
    · have shorter := ih (n / 10) (by omega) (by omega)
      have digits : 0 < digitCount (n / 10) := by
        rw [digitCount]
        split <;> omega
      calc 10 ^ (digitCount (n / 10) + 1 - 1)
          = 10 * 10 ^ (digitCount (n / 10) - 1) := by
            rw [← Nat.pow_succ']
            congr 1
            omega
        _ ≤ 10 * (n / 10) := Nat.mul_le_mul_left 10 shorter
        _ ≤ n := Nat.mul_div_le n 10

theorem le_mul_pow_tensMissing (n d : Nat) (positive : 0 < n) :
    d ≤ n * 10 ^ tensMissing n d := by
  fun_induction tensMissing n d with
  | case1 n h =>
    rw [Nat.pow_zero, Nat.mul_one]
    omega
  | case2 n h ih =>
    have scaled := ih (by omega)
    rw [Nat.pow_succ]
    calc d ≤ 10 * n * 10 ^ tensMissing (10 * n) d := scaled
      _ = n * (10 ^ tensMissing (10 * n) d * 10) := by ring

/-- The power of ten of the first digit is at most the value. -/
theorem zpow_leadingExponent_le {f : Fraction} (numerator : 0 < f.numerator)
    (denominator : 0 < f.denominator) : (10 : ℚ) ^ leadingExponent f ≤ f.value := by
  have denominator' : (0 : ℚ) < f.denominator := by exact_mod_cast denominator
  rw [leadingExponent, Fraction.value, le_div_iff₀ denominator']
  split
  · rename_i whole
    have quotient : 0 < f.numerator / f.denominator := Nat.div_pos whole denominator
    have digits : 0 < digitCount (f.numerator / f.denominator) := by
      rw [digitCount]
      split <;> omega
    have bound : 10 ^ (digitCount (f.numerator / f.denominator) - 1) * f.denominator
        ≤ f.numerator :=
      (Nat.mul_le_mul_right _ (pow_digitCount_le quotient)).trans (Nat.div_mul_le_self _ _)
    have exponent : (digitCount (f.numerator / f.denominator) : Int) - 1
        = (digitCount (f.numerator / f.denominator) - 1 : Nat) := by omega
    rw [exponent, zpow_natCast]
    exact_mod_cast bound
  · have bound := le_mul_pow_tensMissing f.numerator f.denominator numerator
    rw [zpow_neg, zpow_natCast, inv_mul_le_iff₀ (by positivity), mul_comm]
    exact_mod_cast bound

/-! ## Neighbours on a grid -/

theorem contains_of_onGrid {i : Interval} {tie : Tie} {k : Int} {d : Scientific}
    (found : i.onGrid tie k = some d) : i.contains d = true := by
  simp only [Interval.onGrid] at found
  split at found
  · rename_i lower upper
    split at found
    · cases found
      exact lower
    · split at found
      · cases found
        exact upper
      · split at found
        · cases found
          exact upper
        · cases found
          split
          · exact lower
          · exact upper
  · rename_i lower _
    cases found
    exact lower
  · rename_i _ upper
    cases found
    exact upper
  · cases found

/-- The lower neighbour of a value on a grid. -/
def gridFloor (i : Interval) (k : Int) : Nat :=
  i.value * (Fraction.scaled 1 10 k).denominator
    / (i.denominator * (Fraction.scaled 1 10 k).numerator)

theorem onGrid_ne_none {i : Interval} {tie : Tie} {k : Int}
    (hit : i.contains ⟨gridFloor i k, k⟩ = true ∨ i.contains ⟨gridFloor i k + 1, k⟩ = true) :
    i.onGrid tie k ≠ none := by
  intro missed
  rw [gridFloor] at hit
  simp only [Interval.onGrid] at missed
  split at missed
  · split at missed
    · cases missed
    · split at missed
      · cases missed
      · split at missed <;> cases missed
  · cases missed
  · cases missed
  · rename_i lower upper
    rw [lower, upper] at hit
    simp at hit

theorem value_ofDouble (c : Nat) (e : Int) :
    ((Interval.ofDouble c e).value : ℚ) / (Interval.ofDouble c e).denominator = c * 2 ^ e := by
  have scale := Fraction.value_scaled 1 2 (e - 2)
  rw [Fraction.value] at scale
  have unfolded : ((Interval.ofDouble c e).value : ℚ) / (Interval.ofDouble c e).denominator
      = 4 * c * ((Fraction.scaled 1 2 (e - 2)).numerator
          / (Fraction.scaled 1 2 (e - 2)).denominator) := by
    simp only [Interval.ofDouble]
    push_cast
    ring
  rw [unfolded, scale, two_zpow_split e]
  push_cast
  ring

/-- The neighbours of a value on a grid lie around it. -/
theorem gridFloor_bounds (c : Nat) (e k : Int) :
    (gridFloor (.ofDouble c e) k : ℚ) * 10 ^ k ≤ c * 2 ^ e ∧
      (c * 2 ^ e : ℚ) < (gridFloor (.ofDouble c e) k + 1 : ℚ) * 10 ^ k := by
  have scale := Fraction.value_scaled 1 10 k
  have denominator := Fraction.denominator_scaled_pos 1 (b := 10) (by norm_num) k
  have numerator := Fraction.numerator_scaled_pos (c := 1) (b := 10) (by norm_num) (by norm_num) k
  have positive : 0 < (Interval.ofDouble c e).denominator :=
    Fraction.denominator_scaled_pos 1 (by norm_num) (e - 2)
  rw [← value_ofDouble]
  have ten : (10 : ℚ) ^ k
      = (Fraction.scaled 1 10 k).numerator / (Fraction.scaled 1 10 k).denominator := by
    rw [← Fraction.value, scale]
    push_cast
    ring
  rw [ten, gridFloor]
  -- What is left is division with remainder.
  generalize (Fraction.scaled 1 10 k).numerator = n at *
  generalize (Fraction.scaled 1 10 k).denominator = d at *
  generalize (Interval.ofDouble c e).denominator = b at *
  generalize (Interval.ofDouble c e).value = a at *
  have d' : (0 : ℚ) < d := by exact_mod_cast denominator
  have b' : (0 : ℚ) < b := by exact_mod_cast positive
  rw [← mul_div_assoc, ← mul_div_assoc, div_le_div_iff₀ d' b', div_lt_div_iff₀ b' d']
  constructor
  · have low := Nat.div_mul_le_self (a * d) (b * n)
    have : a * d / (b * n) * n * b ≤ a * d := by
      calc a * d / (b * n) * n * b = a * d / (b * n) * (b * n) := by ring
        _ ≤ a * d := low
    exact_mod_cast this
  · have high := Nat.lt_div_mul_add (a := a * d) (b := b * n) (Nat.mul_pos positive numerator)
    have : a * d < (a * d / (b * n) + 1) * n * b := by
      calc a * d < a * d / (b * n) * (b * n) + b * n := high
        _ = (a * d / (b * n) + 1) * n * b := by ring
    exact_mod_cast this

/-- If both neighbours miss the interval of a double, the grid is at least as
wide as the interval. -/
theorem width_le_of_missed {c : Nat} {e : Int} {q r : ℚ} (around : q ≤ c * 2 ^ e)
    (above : (c * 2 ^ e : ℚ) ≤ r) (lower : ¬ IsNear c e q) (upper : ¬ IsNear c e r) :
    (2 + stepBelow c e : ℚ) * 2 ^ (e - 2) ≤ r - q := by
  have unit := two_zpow_pos (e - 2)
  rw [two_zpow_split e] at around above
  have gap : (0 : ℚ) < stepBelow c e * 2 ^ (e - 2) := mul_pos (cast_stepBelow_pos c e) unit
  -- A neighbour inside the bounds would be a hit, whether or not the bounds count.
  have low : q ≤ (4 * c - stepBelow c e : ℚ) * 2 ^ (e - 2) := by
    by_contra inside
    exact lower ⟨by linarith, by linarith, fun _ => ⟨by linarith, by linarith⟩⟩
  have high : (4 * c + 2 : ℚ) * 2 ^ (e - 2) ≤ r := by
    by_contra inside
    exact upper ⟨by linarith, by linarith, fun _ => ⟨by linarith, by linarith⟩⟩
  linarith

/-- Sixteen places behind the first digit, the grid is finer than the interval. -/
theorem grid_lt_width {c : Nat} {e first : Int} (short : c < 2 ^ 53)
    (size : (10 : ℚ) ^ first ≤ c * 2 ^ e) :
    (10 : ℚ) ^ (first - 16) < (2 + stepBelow c e : ℚ) * 2 ^ (e - 2) := by
  have unit := two_zpow_pos (e - 2)
  have bound : (c : ℚ) < 2 ^ 53 := by exact_mod_cast short
  have scaled : (10 : ℚ) ^ (first - 16) * 10 ^ 16 ≤ 4 * c * 2 ^ (e - 2) := by
    rw [zpow_sub₀ (by norm_num)]
    calc (10 : ℚ) ^ first / 10 ^ (16 : Int) * 10 ^ 16 = 10 ^ first := by
          norm_num
      _ ≤ c * 2 ^ e := size
      _ = 4 * c * 2 ^ (e - 2) := by
          rw [two_zpow_split e]
          ring
  -- Below a power of two the interval is narrower, but there the coefficient is known.
  unfold stepBelow
  split
  · rename_i power
    have coefficient : (c : ℚ) = 2 ^ 52 := by exact_mod_cast power.1
    rw [coefficient] at scaled
    norm_num at scaled ⊢
    linarith
  · have product : (c : ℚ) * 2 ^ (e - 2) ≤ 2 ^ 53 * 2 ^ (e - 2) :=
      mul_le_mul_of_nonneg_right bound.le unit.le
    norm_num at scaled product ⊢
    linarith

/-! ## The shortest decimal -/

theorem value_reduced (d : Scientific) : d.reduced.value = d.value := by
  fun_induction Scientific.reduced d with
  | case1 d h ih =>
    rw [ih, Scientific.value, Scientific.value, zpow_add₀ (by norm_num), zpow_one]
    have whole : d.coefficient = 10 * (d.coefficient / 10) := by omega
    have cast : (d.coefficient : ℚ) = 10 * (d.coefficient / 10 : Nat) := by exact_mod_cast whole
    rw [cast]
    ring
  | case2 d h => rfl

/-- The shortest decimal of a double is read back as it. -/
theorem isNear_shortest (tie : Tie) {c : Nat} (positive : 0 < c) (short : c < 2 ^ 53) (e : Int) :
    IsNear c e (shortest tie c e).value := by
  have unit := Fraction.denominator_scaled_pos 1 (b := 2) (by norm_num) (e - 2)
  have scale := Fraction.numerator_scaled_pos (c := 1) (b := 2) (by norm_num) (by norm_num) (e - 2)
  have value : 0 < (Interval.ofDouble c e).value :=
    Nat.mul_pos (Nat.mul_pos (by norm_num) positive) scale
  have first := zpow_leadingExponent_le
    (f := ⟨(Interval.ofDouble c e).value, (Interval.ofDouble c e).denominator⟩) value unit
  rw [Fraction.value, value_ofDouble] at first
  rw [shortest]
  generalize leadingExponent _ = k at first ⊢
  cases found : (List.range 17).findSome? (fun n : Nat =>
      (Interval.ofDouble c e).onGrid tie (k - n)) with
  | some d =>
    obtain ⟨n, _, hit⟩ := List.exists_of_findSome?_eq_some found
    rw [value_reduced]
    exact (contains_ofDouble_iff positive e d).mp (contains_of_onGrid hit)
  | none =>
    -- The last grid was searched in vain, although it is too fine to miss the interval.
    have missed := List.findSome?_eq_none_iff.mp found 16 (by decide)
    have fine := grid_lt_width short first
    push_cast at missed
    generalize k - 16 = grid at missed fine
    have bounds := gridFloor_bounds c e grid
    have lower : ¬ IsNear c e (gridFloor (.ofDouble c e) grid * 10 ^ grid) := fun near =>
      onGrid_ne_none (.inl ((contains_ofDouble_iff positive e _).mpr near)) missed
    have upper : ¬ IsNear c e ((gridFloor (.ofDouble c e) grid + 1 : Nat) * 10 ^ grid) :=
      fun near => onGrid_ne_none (.inr ((contains_ofDouble_iff positive e _).mpr near)) missed
    have wide := width_le_of_missed bounds.1 (by push_cast; exact bounds.2.le) lower upper
    push_cast at wide
    linarith

theorem coefficient_shortest_pos (tie : Tie) {c : Nat} (positive : 0 < c) (short : c < 2 ^ 53)
    (e : Int) : 0 < (shortest tie c e).coefficient := by
  have value := (isNear_shortest tie positive short e).pos positive
  rw [Scientific.value] at value
  have nonzero := pos_of_mul_pos_left value (ten_zpow_pos _).le
  exact_mod_cast nonzero

end DesignTokens.Decimal
