import DesignTokens.Decimal.Reading
import DesignTokens.Proofs.Decimal.Bits
import DesignTokens.Proofs.Decimal.Exact

/-!
# The nearest double

A decimal value in the interval of a double is rounded to this double.  What
has to be looked at are the borders: a half, the binade below a power of two,
and the smallest doubles.
-/

namespace DesignTokens.Decimal

/-! ## Rounding to whole numbers -/

theorem roundHalfEven_eq {n d c : Nat} (positive : 0 < d) (low : 2 * c * d ≤ 2 * n + d)
    (high : 2 * n ≤ 2 * c * d + d)
    (odd : c % 2 = 1 → 2 * c * d < 2 * n + d ∧ 2 * n < 2 * c * d + d) :
    roundHalfEven n d = c := by
  have parts := Nat.div_add_mod n d
  have remainder := Nat.mod_lt n positive
  rw [roundHalfEven]
  generalize n / d = k at parts ⊢
  generalize n % d = r at parts remainder ⊢
  -- The quotient is the sought number or the one before it.
  have above : k ≤ c := by
    by_contra beyond
    have := Nat.mul_le_mul_left d (show c + 1 ≤ k by omega)
    rw [Nat.mul_add] at this
    have : 2 * c * d = 2 * (d * c) := by ring
    omega
  have below : c ≤ k + 1 := by
    by_contra beyond
    have := Nat.mul_le_mul_left d (show k + 2 ≤ c by omega)
    rw [Nat.mul_add] at this
    have : 2 * c * d = 2 * (d * c) := by ring
    omega
  rcases (show c = k ∨ c = k + 1 by omega) with rfl | rfl
  · have : 2 * c * d = 2 * (d * c) := by ring
    have half : 2 * r ≤ d := by omega
    split
    · rfl
    · split
      · omega
      · have even : c % 2 = 0 := by
          by_contra notEven
          have := odd (by omega)
          omega
        omega
  · have : 2 * (k + 1) * d = 2 * (d * k) + 2 * d := by ring
    have half : d ≤ 2 * r := by omega
    split
    · omega
    · split
      · rfl
      · have even : (k + 1) % 2 = 0 := by
          by_contra notEven
          have := odd (by omega)
          omega
        omega

/-- Rounding in terms of the value of a fraction. -/
theorem roundHalfEven_of_value {n d c : Nat} (positive : 0 < d)
    (low : (c : ℚ) - 1 / 2 ≤ (n : ℚ) / d) (high : (n : ℚ) / d ≤ c + 1 / 2)
    (odd : c % 2 = 1 → (c : ℚ) - 1 / 2 < (n : ℚ) / d ∧ (n : ℚ) / d < c + 1 / 2) :
    roundHalfEven n d = c := by
  have positive' : (0 : ℚ) < d := by exact_mod_cast positive
  rw [le_div_iff₀ positive'] at low
  rw [div_le_iff₀ positive'] at high
  rw [lt_div_iff₀ positive', div_lt_iff₀ positive'] at odd
  refine roundHalfEven_eq positive ?_ ?_ fun isOdd => ⟨?_, ?_⟩
  · have : (2 * c * d : ℚ) ≤ 2 * n + d := by linarith
    exact_mod_cast this
  · have : (2 * n : ℚ) ≤ 2 * c * d + d := by linarith
    exact_mod_cast this
  · have : (2 * c * d : ℚ) < 2 * n + d := by linarith [(odd isOdd).1]
    exact_mod_cast this
  · have : (2 * n : ℚ) < 2 * c * d + d := by linarith [(odd isOdd).2]
    exact_mod_cast this

/-! ## The exponent of a fraction -/

/-- A fraction divided by a power of two. -/
def scaledDown (f : Fraction) (e : Int) : Fraction :=
  ⟨f.numerator * (Fraction.scaled 1 2 e).denominator,
    f.denominator * (Fraction.scaled 1 2 e).numerator⟩

theorem denominator_scaledDown_pos {f : Fraction} (positive : 0 < f.denominator) (e : Int) :
    0 < (scaledDown f e).denominator :=
  Nat.mul_pos positive (Fraction.numerator_scaled_pos (by norm_num) (by norm_num) e)

theorem value_scaledDown (f : Fraction) (e : Int) :
    (scaledDown f e).value = f.value / 2 ^ e := by
  have scale := Fraction.value_scaled 1 2 e
  rw [Nat.cast_one, one_mul, Nat.cast_ofNat] at scale
  rw [← scale]
  simp only [Fraction.value, scaledDown]
  push_cast
  rw [div_div_div_eq]

/-- The exponent at which a fraction has a coefficient from `2 ^ 52` to
`2 ^ 53`. -/
def exponentOf (f : Fraction) : Int :=
  let guess : Int := (f.numerator.log2 : Int) - f.denominator.log2 - 52
  if (scaledDown f guess).numerator < Nat.pow 2 52 * (scaledDown f guess).denominator then
    guess - 1
  else guess

theorem fractionBits_unfold (f : Fraction) :
    fractionBits f = min infinityBits
      ((max (exponentOf f) leastExponent - leastExponent).toNat * Nat.pow 2 52
        + roundHalfEven (scaledDown f (max (exponentOf f) leastExponent)).numerator
          (scaledDown f (max (exponentOf f) leastExponent)).denominator) := rfl

theorem cast_log2_bounds {n : Nat} (positive : 0 < n) :
    (2 : ℚ) ^ (n.log2 : Int) ≤ n ∧ (n : ℚ) < 2 ^ (n.log2 + 1 : Int) := by
  have low := Nat.log2_self_le (Nat.pos_iff_ne_zero.mp positive)
  have high := Nat.lt_log2_self (n := n)
  constructor
  · rw [zpow_natCast]
    exact_mod_cast low
  · have exponent : (n.log2 + 1 : Int) = (n.log2 + 1 : Nat) := by push_cast; rfl
    rw [exponent, zpow_natCast]
    exact_mod_cast high

theorem exponentOf_bounds {f : Fraction} (numerator : 0 < f.numerator)
    (denominator : 0 < f.denominator) :
    (2 : ℚ) ^ (exponentOf f + 52) ≤ f.value ∧ f.value < 2 ^ (exponentOf f + 53) := by
  obtain ⟨nLow, nHigh⟩ := cast_log2_bounds numerator
  obtain ⟨dLow, dHigh⟩ := cast_log2_bounds denominator
  have d' : (0 : ℚ) < f.denominator := by exact_mod_cast denominator
  rw [exponentOf]
  generalize guessed : (f.numerator.log2 : Int) - f.denominator.log2 - 52 = guess
  have low : (2 : ℚ) ^ (guess + 51) ≤ f.value := by
    rw [Fraction.value, le_div_iff₀ d']
    calc (2 : ℚ) ^ (guess + 51) * f.denominator
        ≤ 2 ^ (guess + 51) * 2 ^ (f.denominator.log2 + 1 : Int) :=
          mul_le_mul_of_nonneg_left dHigh.le (two_zpow_pos _).le
      _ = 2 ^ (f.numerator.log2 : Int) := by
          rw [← zpow_add₀ (by norm_num)]
          congr 1
          omega
      _ ≤ f.numerator := nLow
  have high : f.value < 2 ^ (guess + 53) := by
    rw [Fraction.value, div_lt_iff₀ d']
    calc (f.numerator : ℚ) < 2 ^ (f.numerator.log2 + 1 : Int) := nHigh
      _ = 2 ^ (guess + 53) * 2 ^ (f.denominator.log2 : Int) := by
          rw [← zpow_add₀ (by norm_num)]
          congr 1
          omega
      _ ≤ 2 ^ (guess + 53) * f.denominator :=
          mul_le_mul_of_nonneg_left dLow (two_zpow_pos _).le
  -- The guess is one too high exactly if it makes the coefficient too small.
  have test : (scaledDown f guess).numerator < Nat.pow 2 52 * (scaledDown f guess).denominator
      ↔ f.value < 2 ^ (guess + 52) := by
    have positive : (0 : ℚ) < (scaledDown f guess).denominator := by
      exact_mod_cast denominator_scaledDown_pos denominator guess
    have split : (2 : ℚ) ^ (guess + 52) = 2 ^ 52 * 2 ^ guess := by
      rw [zpow_add₀ (by norm_num), mul_comm]
      norm_num
    rw [split, ← div_lt_iff₀ (two_zpow_pos _), ← value_scaledDown, Fraction.value,
      div_lt_iff₀ positive]
    norm_cast
  split
  · rename_i small
    have below := test.mp small
    constructor
    · rwa [show guess - 1 + 52 = guess + 51 by ring]
    · rwa [show guess - 1 + 53 = guess + 52 by ring]
  · rename_i large
    exact ⟨not_lt.mp (fun below => large (test.mpr below)), high⟩

/-! ## The bits of a fraction -/

/-- The bits of the positive double `c * 2 ^ e`. -/
def doubleBits (c : Nat) (e : Int) : Nat := (e - leastExponent).toNat * 2 ^ 52 + c

theorem doubleBits_lt {c : Nat} {e : Int} (double : IsDouble c e) :
    doubleBits c e < 2047 * 2 ^ 52 := by
  have := double.short
  have := double.greatest
  have := double.least
  rw [doubleBits, leastExponent] at *
  omega

/-- Rounding in the binade of the double. -/
theorem roundHalfEven_of_isNear {c : Nat} {e : Int} {f : Fraction}
    (denominator : 0 < f.denominator) (near : IsNear c e f.value) :
    roundHalfEven (scaledDown f e).numerator (scaledDown f e).denominator = c := by
  have unit := two_zpow_pos (e - 2)
  have step : (stepBelow c e : ℚ) * 2 ^ (e - 2) ≤ 2 * 2 ^ (e - 2) :=
    mul_le_mul_of_nonneg_right (cast_stepBelow_le_two c e) unit.le
  have value := value_scaledDown f e
  rw [Fraction.value] at value
  have low := near.low
  have high := near.high
  refine roundHalfEven_of_value (denominator_scaledDown_pos denominator e) ?_ ?_ fun odd => ?_
  · rw [value, le_div_iff₀ (two_zpow_pos e), two_zpow_split e]
    linarith
  · rw [value, div_le_iff₀ (two_zpow_pos e), two_zpow_split e]
    linarith
  · have strict := near.odd odd
    rw [value, lt_div_iff₀ (two_zpow_pos e), div_lt_iff₀ (two_zpow_pos e), two_zpow_split e]
    constructor <;> linarith [strict.1, strict.2]

theorem exponentOf_le {c : Nat} {e : Int} {f : Fraction} (double : IsDouble c e)
    (numerator : 0 < f.numerator) (denominator : 0 < f.denominator)
    (near : IsNear c e f.value) : exponentOf f ≤ e := by
  have unit := two_zpow_pos (e - 2)
  have bound := (exponentOf_bounds numerator denominator).1
  have short : (c : ℚ) ≤ 2 ^ 53 - 1 := by
    have := double.short
    have whole : (c : ℚ) + 1 ≤ 2 ^ 53 := by exact_mod_cast this
    linarith
  have below : f.value < 2 ^ (e + 53) := by
    calc f.value ≤ (4 * c + 2 : ℚ) * 2 ^ (e - 2) := near.high
      _ < 2 ^ 55 * 2 ^ (e - 2) := mul_lt_mul_of_pos_right (by linarith) unit
      _ = 2 ^ (e + 53) := (two_zpow_add e 53).symm
  have order := (zpow_lt_zpow_iff_right₀ (by norm_num)).mp (lt_of_le_of_lt bound below)
  omega

/-- What is below the binade of a double but near it is just below a power of
two. -/
theorem eq_power_of_below {c : Nat} {e : Int} {f : Fraction} (double : IsDouble c e)
    (inside : leastExponent < e) (below : f.value < 2 ^ (e + 52)) (near : IsNear c e f.value) :
    c = 2 ^ 52 ∧ (2 ^ 54 - 1 : ℚ) * 2 ^ (e - 2) ≤ f.value := by
  have unit := two_zpow_pos (e - 2)
  have long : 2 ^ 52 ≤ c := double.long.resolve_right (fun least => by omega)
  have low := near.low
  -- A greater coefficient would put the lower bound into the binade of the double.
  have power : c = 2 ^ 52 := by
    by_contra other
    have larger : (2 ^ 52 + 1 : ℚ) ≤ c := by exact_mod_cast (show 2 ^ 52 + 1 ≤ c by omega)
    have step := cast_stepBelow_le_two c e
    have beyond : (2 : ℚ) ^ (e + 52) ≤ f.value := by
      calc (2 : ℚ) ^ (e + 52) = 2 ^ 54 * 2 ^ (e - 2) := two_zpow_add e 52
        _ ≤ (4 * c - stepBelow c e : ℚ) * 2 ^ (e - 2) :=
            mul_le_mul_of_nonneg_right (by linarith) unit.le
        _ ≤ f.value := low
    exact absurd below (not_lt.mpr beyond)
  have step : stepBelow c e = 1 := if_pos ⟨power, inside⟩
  refine ⟨power, ?_⟩
  rw [step, power] at low
  push_cast at low
  norm_num at low ⊢
  exact low

/-- What is just below a power of two lies in the binade before. -/
theorem exponentOf_eq_of_below {e : Int} {f : Fraction} (high : f.value < 2 ^ (exponentOf f + 53))
    (close : (2 ^ 54 - 1 : ℚ) * 2 ^ (e - 2) ≤ f.value) (smaller : exponentOf f < e) :
    exponentOf f = e - 1 := by
  have unit := two_zpow_pos (e - 2)
  have beyond : (2 : ℚ) ^ (e + 51) < 2 ^ (exponentOf f + 53) := by
    refine lt_of_le_of_lt ?_ high
    calc (2 : ℚ) ^ (e + 51) = 2 ^ 53 * 2 ^ (e - 2) := two_zpow_add e 51
      _ ≤ (2 ^ 54 - 1 : ℚ) * 2 ^ (e - 2) := mul_le_mul_of_nonneg_right (by norm_num) unit.le
      _ ≤ f.value := close
  have order := (zpow_lt_zpow_iff_right₀ (by norm_num)).mp beyond
  omega

/-- What is just below a power of two is rounded up to it. -/
theorem roundHalfEven_of_below {e : Int} {f : Fraction} (denominator : 0 < f.denominator)
    (below : f.value < 2 ^ (e + 52)) (close : (2 ^ 54 - 1 : ℚ) * 2 ^ (e - 2) ≤ f.value) :
    roundHalfEven (scaledDown f (e - 1)).numerator (scaledDown f (e - 1)).denominator
      = 2 ^ 53 := by
  have value := value_scaledDown f (e - 1)
  rw [Fraction.value] at value
  have half : (2 : ℚ) ^ (e - 1) = 2 * 2 ^ (e - 2) := by
    rw [show e - 1 = e - 2 + 1 by ring, zpow_add₀ (by norm_num), zpow_one, mul_comm]
  have whole : (2 : ℚ) ^ (e + 52) = 2 ^ 54 * 2 ^ (e - 2) := two_zpow_add e 52
  refine roundHalfEven_of_value (denominator_scaledDown_pos denominator _) ?_ ?_
    (fun odd => absurd odd (by decide))
  · rw [value, le_div_iff₀ (two_zpow_pos _), half]
    push_cast
    linarith
  · rw [value, div_le_iff₀ (two_zpow_pos _), half]
    rw [whole] at below
    push_cast
    linarith

/-- Fractions near a double are rounded to it. -/
theorem fractionBits_eq {c : Nat} {e : Int} {f : Fraction} (double : IsDouble c e)
    (numerator : 0 < f.numerator) (denominator : 0 < f.denominator)
    (near : IsNear c e f.value) : fractionBits f = doubleBits c e := by
  obtain ⟨low, high⟩ := exponentOf_bounds numerator denominator
  have atMost := exponentOf_le double numerator denominator near
  have least := double.least
  have finite := doubleBits_lt double
  rw [fractionBits_unfold]
  by_cases same : max (exponentOf f) leastExponent = e
  · rw [same, roundHalfEven_of_isNear denominator near]
    exact min_eq_right finite.le
  · -- The fraction lies in the binade below the one of the double.
    have inside : leastExponent < e := by omega
    have below : f.value < 2 ^ (e + 52) :=
      lt_of_lt_of_le high (zpow_le_zpow_right₀ (by norm_num) (by omega))
    obtain ⟨power, close⟩ := eq_power_of_below double inside below near
    have next := exponentOf_eq_of_below high close (by omega)
    have bounded : max (exponentOf f) leastExponent = e - 1 := by omega
    rw [bounded, roundHalfEven_of_below denominator below close, doubleBits, power]
    rw [doubleBits, power] at finite
    -- Rounding up carries over into the exponent field.
    have shift : (e - 1 - leastExponent).toNat + 1 = (e - leastExponent).toNat := by omega
    have carry : (e - 1 - leastExponent).toNat * Nat.pow 2 52 + 2 ^ 53
        = (e - leastExponent).toNat * 2 ^ 52 + 2 ^ 52 := by
      rw [← shift]
      show _ * 2 ^ 52 + 2 ^ 53 = _
      ring
    rw [carry]
    exact min_eq_right finite.le

/-! ## The double of a decimal -/

theorem cast_lt_pow_length (n : Nat) : (n : ℚ) < 10 ^ ((Nat.toDigits 10 n).length : Int) := by
  have digits := (Nat.length_toDigits_le_iff (b := 10) (n := n) (by norm_num)
    Nat.length_toDigits_pos).mp le_rfl
  rw [zpow_natCast]
  exact_mod_cast digits

theorem pow_length_le_cast {n : Nat} (positive : 0 < n) :
    (10 : ℚ) ^ ((Nat.toDigits 10 n).length - 1 : Int) ≤ n := by
  have length := Nat.length_toDigits_pos (b := 10) (n := n)
  have exponent : ((Nat.toDigits 10 n).length - 1 : Int)
      = ((Nat.toDigits 10 n).length - 1 : Nat) := by omega
  rw [exponent, zpow_natCast]
  by_cases single : (Nat.toDigits 10 n).length = 1
  · rw [single]
    exact_mod_cast positive
  · have digits := (Nat.length_toDigits_le_iff (b := 10) (n := n)
      (k := (Nat.toDigits 10 n).length - 1) (by norm_num) (by omega)).not.mp (by omega)
    exact_mod_cast not_lt.mp digits

/-- The doubles lie between `2 ^ (-1075)` and `2 ^ 1024`. -/
theorem bounds_of_isNear {c : Nat} {e : Int} {q : ℚ} (double : IsDouble c e)
    (near : IsNear c e q) : (2 : ℚ) ^ (-1075 : Int) ≤ q ∧ q ≤ 2 ^ (1024 : Int) := by
  have unit := two_zpow_pos (e - 2)
  have least := double.least
  have greatest := double.greatest
  rw [leastExponent] at least
  constructor
  · have step := cast_stepBelow_le_two c e
    have positive : (1 : ℚ) ≤ c := by exact_mod_cast double.positive
    calc (2 : ℚ) ^ (-1075 : Int) ≤ 2 ^ (e - 2 + 1) := zpow_le_zpow_right₀ (by norm_num) (by omega)
      _ = 2 * 2 ^ (e - 2) := by rw [zpow_add₀ (by norm_num), zpow_one, mul_comm]
      _ ≤ (4 * c - stepBelow c e : ℚ) * 2 ^ (e - 2) :=
          mul_le_mul_of_nonneg_right (by linarith) unit.le
      _ ≤ q := near.low
  · have short : (c : ℚ) + 1 ≤ 2 ^ 53 := by exact_mod_cast double.short
    calc q ≤ (4 * c + 2 : ℚ) * 2 ^ (e - 2) := near.high
      _ ≤ 2 ^ (55 : Int) * 2 ^ (e - 2) := by
          refine mul_le_mul_of_nonneg_right ?_ unit.le
          norm_num at short ⊢
          linarith
      _ = 2 ^ (55 + (e - 2)) := by rw [zpow_add₀ (by norm_num)]
      _ ≤ 2 ^ (1024 : Int) := zpow_le_zpow_right₀ (by norm_num) (by omega)

/-- A decimal that starts too far behind the point is below all doubles. -/
theorem lt_of_starts_late {n : Nat} {e : Int}
    (small : ((Nat.toDigits 10 n).length + e : Int) < -330) :
    (n : ℚ) * 10 ^ e < 2 ^ (-1075 : Int) := by
  have powers : 2 ^ 1075 < 10 ^ 330 := by decide +kernel
  have apart : (10 : ℚ) ^ (-330 : Int) < 2 ^ (-1075 : Int) := by
    rw [zpow_neg, zpow_neg, inv_lt_inv₀ (ten_zpow_pos _) (two_zpow_pos _)]
    exact_mod_cast powers
  calc (n : ℚ) * 10 ^ e < 10 ^ ((Nat.toDigits 10 n).length : Int) * 10 ^ e :=
        mul_lt_mul_of_pos_right (cast_lt_pow_length n) (ten_zpow_pos _)
    _ = 10 ^ ((Nat.toDigits 10 n).length + e : Int) := by rw [zpow_add₀ (by norm_num)]
    _ ≤ 10 ^ (-330 : Int) := zpow_le_zpow_right₀ (by norm_num) small.le
    _ < 2 ^ (-1075 : Int) := apart

/-- A decimal with too many digits before the point is above all doubles. -/
theorem lt_of_starts_early {n : Nat} {e : Int} (positive : 0 < n)
    (large : (310 : Int) < (Nat.toDigits 10 n).length + e) :
    (2 : ℚ) ^ (1024 : Int) < n * 10 ^ e := by
  have powers : 2 ^ 1024 < 10 ^ 310 := by decide +kernel
  calc (2 : ℚ) ^ (1024 : Int) < 10 ^ (310 : Int) := by exact_mod_cast powers
    _ ≤ 10 ^ ((Nat.toDigits 10 n).length - 1 + e : Int) :=
        zpow_le_zpow_right₀ (by norm_num) (by omega)
    _ = 10 ^ ((Nat.toDigits 10 n).length - 1 : Int) * 10 ^ e := by rw [zpow_add₀ (by norm_num)]
    _ ≤ n * 10 ^ e := mul_le_mul_of_nonneg_right (pow_length_le_cast positive) (ten_zpow_pos _).le

/-- A decimal near a double is read as this double. -/
theorem nearest_eq (negative : Bool) {c : Nat} {e : Int} (double : IsDouble c e)
    {coefficient : Nat} {exponent : Int} (near : IsNear c e (coefficient * 10 ^ exponent)) :
    nearest negative coefficient exponent
      = Float.ofBits (UInt64.ofNat (doubleBits c e + if negative then 2 ^ 63 else 0)) := by
  have value := near.pos double.positive
  have positive : 0 < coefficient := by
    have nonzero := pos_of_mul_pos_left value (ten_zpow_pos _).le
    exact_mod_cast nonzero
  obtain ⟨low, high⟩ := bounds_of_isNear double near
  -- So near a double, neither of the two short cuts is taken.
  have notSmall : ¬ ((Nat.toDigits 10 coefficient).length + exponent : Int) < -330 := fun small =>
    absurd (lt_of_starts_late small) (not_lt.mpr low)
  have notLarge : ¬ (310 : Int) < (Nat.toDigits 10 coefficient).length + exponent := fun large =>
    absurd (lt_of_starts_early positive large) (not_lt.mpr high)
  have scaled : fractionBits (Fraction.scaled coefficient 10 exponent) = doubleBits c e := by
    refine fractionBits_eq double (Fraction.numerator_scaled_pos positive (by norm_num) _)
      (Fraction.denominator_scaled_pos _ (by norm_num) _) ?_
    rw [Fraction.value_scaled]
    exact_mod_cast near
  rw [nearest]
  rw [if_neg (by omega), if_neg notLarge, scaled]
  rfl

theorem nearest_zero (negative : Bool) (exponent : Int) :
    nearest negative 0 exponent
      = Float.ofBits (UInt64.ofNat (0 + if negative then 2 ^ 63 else 0)) := by
  rw [nearest, if_pos (.inl rfl)]
  rfl

/-! ## The parts of a double -/

theorem ofFloat_eq_finite {x : Float} {negative : Bool} {c : Nat} {e : Int}
    (parts : Double.ofFloat x = .finite negative c e) :
    (IsDouble c e ∨ c = 0 ∧ e = leastExponent) ∧
      x.toBits.toNat = doubleBits c e + if negative then 2 ^ 63 else 0 := by
  have bits := x.toBits.toNat_lt
  have power63 : Nat.pow 2 63 = 9223372036854775808 := rfl
  have power52 : Nat.pow 2 52 = 4503599627370496 := rfl
  have power11 : Nat.pow 2 11 = 2048 := rfl
  simp only [Double.ofFloat, power63, power52, power11] at parts
  generalize x.toBits.toNat = n at *
  have sign : (if (n / 9223372036854775808 % 2 == 1) = true then 2 ^ 63 else 0)
      = n / 9223372036854775808 % 2 * 9223372036854775808 := by
    rcases Nat.mod_two_eq_zero_or_one (n / 9223372036854775808) with zero | one
    · rw [zero]
      rfl
    · rw [one]
      rfl
  have low : leastExponent = -1074 := rfl
  split at parts
  · split at parts <;> cases parts
  · rename_i partly
    split at parts
    · rename_i subnormal
      cases parts
      refine ⟨?_, ?_⟩
      · rcases Nat.eq_zero_or_pos (n % 4503599627370496) with zero | positive
        · exact .inr ⟨zero, rfl⟩
        · exact .inl ⟨positive, by omega, .inr rfl, le_rfl, by decide⟩
      rw [sign, doubleBits, Int.sub_self, Int.toNat_zero]
      omega
    · rename_i normal
      cases parts
      have exponent : (leastExponent + ((n / 4503599627370496 % 2048 : Nat) - 1 : Int)
          - leastExponent).toNat = n / 4503599627370496 % 2048 - 1 := by omega
      refine ⟨.inl ⟨by omega, by omega, .inl (by omega), by omega, by omega⟩, ?_⟩
      rw [sign, doubleBits, exponent]
      omega

end DesignTokens.Decimal
