import DesignTokens.Decimal.Shortest
import Mathlib.Algebra.Order.Field.Power
import Mathlib.Algebra.Order.Field.Rat
import Mathlib.Tactic.FieldSimp
import Mathlib.Tactic.Linarith
import Mathlib.Tactic.NormNum
import Mathlib.Tactic.Positivity
import Mathlib.Tactic.Ring

/-!
# Exact values as rational numbers

Fractions, decimals and doubles all stand for rational numbers, and the
interval around a double is a condition on the rational number in it.
-/

namespace DesignTokens.Decimal

/-! ## Values -/

/-- The rational number of a fraction. -/
def Fraction.value (f : Fraction) : ℚ := f.numerator / f.denominator

/-- The rational number of a decimal. -/
def Scientific.value (d : Scientific) : ℚ := d.coefficient * 10 ^ d.exponent

namespace Fraction

theorem denominator_scaled_pos (c : Nat) {b : Nat} (positive : 0 < b) (e : Int) :
    0 < (scaled c b e).denominator := by
  cases e with
  | ofNat e => exact Nat.one_pos
  | negSucc e => exact Nat.pow_pos positive

theorem numerator_scaled_pos {c b : Nat} (coefficient : 0 < c) (positive : 0 < b) (e : Int) :
    0 < (scaled c b e).numerator := by
  cases e with
  | ofNat e => exact Nat.mul_pos coefficient (Nat.pow_pos positive)
  | negSucc e => exact coefficient

theorem value_scaled (c b : Nat) (e : Int) : (scaled c b e).value = c * (b : ℚ) ^ e := by
  cases e with
  | ofNat e => simp [scaled, value]
  | negSucc e => simp [scaled, value, zpow_negSucc, div_eq_mul_inv]

end Fraction

theorem Scientific.value_eq (d : Scientific) :
    d.value = (Fraction.scaled d.coefficient 10 d.exponent).value := by
  rw [Fraction.value_scaled]
  rfl

/-! ## The interval of a double -/

/-- The coefficient and the exponent of a positive finite double. -/
structure IsDouble (c : Nat) (e : Int) : Prop where
  positive : 0 < c
  short : c < 2 ^ 53
  long : 2 ^ 52 ≤ c ∨ e = leastExponent
  least : leastExponent ≤ e
  greatest : e ≤ 971

/-- Four times the distance to the lower bound of the interval, in units of the
last digit. -/
def stepBelow (c : Nat) (e : Int) : Nat :=
  if c = Nat.pow 2 52 ∧ leastExponent < e then 1 else 2

theorem stepBelow_eq_one_or_two (c : Nat) (e : Int) : stepBelow c e = 1 ∨ stepBelow c e = 2 := by
  unfold stepBelow
  split
  · exact .inl rfl
  · exact .inr rfl

theorem cast_stepBelow_pos (c : Nat) (e : Int) : (0 : ℚ) < stepBelow c e := by
  rcases stepBelow_eq_one_or_two c e with step | step <;> rw [step] <;> norm_num

theorem cast_stepBelow_le_two (c : Nat) (e : Int) : (stepBelow c e : ℚ) ≤ 2 := by
  rcases stepBelow_eq_one_or_two c e with step | step <;> rw [step] <;> norm_num

/-- Whether a rational number is read back as the double `c * 2 ^ e`.  The
bounds count if the coefficient is even. -/
structure IsNear (c : Nat) (e : Int) (q : ℚ) : Prop where
  low : (4 * c - stepBelow c e : ℚ) * 2 ^ (e - 2) ≤ q
  high : q ≤ (4 * c + 2 : ℚ) * 2 ^ (e - 2)
  odd : c % 2 = 1 →
    (4 * c - stepBelow c e : ℚ) * 2 ^ (e - 2) < q ∧ q < (4 * c + 2 : ℚ) * 2 ^ (e - 2)

theorem two_zpow_pos (e : Int) : (0 : ℚ) < 2 ^ e := zpow_pos (by norm_num) e

theorem ten_zpow_pos (e : Int) : (0 : ℚ) < 10 ^ e := zpow_pos (by norm_num) e

/-- The unit of the bounds is a quarter of the last digit. -/
theorem two_zpow_split (e : Int) : (2 : ℚ) ^ e = 4 * 2 ^ (e - 2) := by
  rw [zpow_sub₀ (by norm_num)]
  norm_num
  ring

theorem two_zpow_add (e : Int) (n : Nat) : (2 : ℚ) ^ (e + n) = 2 ^ (n + 2) * 2 ^ (e - 2) := by
  rw [zpow_add₀ (by norm_num), two_zpow_split e, zpow_natCast]
  ring

namespace IsNear

variable {c : Nat} {e : Int} {q : ℚ}

theorem pos (positive : 0 < c) (near : IsNear c e q) : 0 < q := by
  have unit := two_zpow_pos (e - 2)
  have coefficient : (1 : ℚ) ≤ c := by exact_mod_cast positive
  have step := cast_stepBelow_le_two c e
  refine lt_of_lt_of_le ?_ near.low
  refine mul_pos ?_ unit
  linarith

end IsNear

/-! ## Comparing fractions -/

theorem Fraction.mul_le_iff {f g : Fraction} (left : 0 < f.denominator) (right : 0 < g.denominator)
    (a : Nat) :
    a * f.numerator * g.denominator ≤ g.numerator * f.denominator ↔ a * f.value ≤ g.value := by
  have left' : (0 : ℚ) < f.denominator := by exact_mod_cast left
  have right' : (0 : ℚ) < g.denominator := by exact_mod_cast right
  rw [value, value, ← mul_div_assoc, div_le_div_iff₀ left' right']
  norm_cast

theorem Fraction.le_mul_iff {f g : Fraction} (left : 0 < f.denominator) (right : 0 < g.denominator)
    (a : Nat) :
    g.numerator * f.denominator ≤ a * f.numerator * g.denominator ↔ g.value ≤ a * f.value := by
  have left' : (0 : ℚ) < f.denominator := by exact_mod_cast left
  have right' : (0 : ℚ) < g.denominator := by exact_mod_cast right
  rw [value, value, ← mul_div_assoc, div_le_div_iff₀ right' left']
  norm_cast

theorem Fraction.mul_lt_iff {f g : Fraction} (left : 0 < f.denominator) (right : 0 < g.denominator)
    (a : Nat) :
    a * f.numerator * g.denominator < g.numerator * f.denominator ↔ a * f.value < g.value := by
  rw [← not_le, ← not_le, le_mul_iff left right]

theorem Fraction.lt_mul_iff {f g : Fraction} (left : 0 < f.denominator) (right : 0 < g.denominator)
    (a : Nat) :
    g.numerator * f.denominator < a * f.numerator * g.denominator ↔ g.value < a * f.value := by
  rw [← not_le, ← not_le, mul_le_iff left right]

namespace Interval

theorem contains_iff (i : Interval) (d : Scientific) :
    i.contains d = true ↔
      let f := Fraction.scaled d.coefficient 10 d.exponent
      if i.closed = true then
        i.low * f.denominator ≤ f.numerator * i.denominator ∧
          f.numerator * i.denominator ≤ i.high * f.denominator
      else
        i.low * f.denominator < f.numerator * i.denominator ∧
          f.numerator * i.denominator < i.high * f.denominator := by
  rw [contains]
  split <;> simp only [Bool.and_eq_true, decide_eq_true_eq]

theorem low_ofDouble (c : Nat) (e : Int) : (ofDouble c e).low
    = (4 * c - stepBelow c e) * (Fraction.scaled 1 2 (e - 2)).numerator := rfl

theorem high_ofDouble (c : Nat) (e : Int) : (ofDouble c e).high
    = (4 * c + 2) * (Fraction.scaled 1 2 (e - 2)).numerator := rfl

theorem denominator_ofDouble (c : Nat) (e : Int) :
    (ofDouble c e).denominator = (Fraction.scaled 1 2 (e - 2)).denominator := rfl

theorem closed_ofDouble (c : Nat) (e : Int) : (ofDouble c e).closed = (c % 2 == 0) := rfl

end Interval

/-- The decimals of the interval are the ones near the double. -/
theorem contains_ofDouble_iff {c : Nat} (positive : 0 < c) (e : Int) (d : Scientific) :
    (Interval.ofDouble c e).contains d = true ↔ IsNear c e d.value := by
  have step : stepBelow c e ≤ 4 * c := by
    rcases stepBelow_eq_one_or_two c e with step | step <;> omega
  have scale : (2 : ℚ) ^ (e - 2) = (Fraction.scaled 1 2 (e - 2)).value := by
    rw [Fraction.value_scaled]
    norm_num
  have unit := Fraction.denominator_scaled_pos 1 (b := 2) (by norm_num) (e - 2)
  have ten := Fraction.denominator_scaled_pos d.coefficient (b := 10) (by norm_num) d.exponent
  have below : (4 * c - stepBelow c e : ℚ) = (4 * c - stepBelow c e : Nat) := by
    rw [Nat.cast_sub step]
    push_cast
    rfl
  have above : (4 * c + 2 : ℚ) = (4 * c + 2 : Nat) := by
    push_cast
    rfl
  -- Both sides of each comparison are whole numbers over one common denominator.
  have bounds : (Interval.ofDouble c e).contains d = true ↔
      if c % 2 = 0 then
        (4 * c - stepBelow c e : ℚ) * 2 ^ (e - 2) ≤ d.value ∧
          d.value ≤ (4 * c + 2 : ℚ) * 2 ^ (e - 2)
      else
        (4 * c - stepBelow c e : ℚ) * 2 ^ (e - 2) < d.value ∧
          d.value < (4 * c + 2 : ℚ) * 2 ^ (e - 2) := by
    rw [Scientific.value_eq, scale, below, above, ← Fraction.mul_le_iff unit ten,
      ← Fraction.le_mul_iff unit ten, ← Fraction.mul_lt_iff unit ten,
      ← Fraction.lt_mul_iff unit ten]
    rw [Interval.contains_iff]
    simp only [Interval.low_ofDouble, Interval.high_ofDouble, Interval.denominator_ofDouble,
      Interval.closed_ofDouble, beq_iff_eq]
  rw [bounds]
  split
  · rename_i even
    exact ⟨fun ⟨low, high⟩ => ⟨low, high, fun odd => by omega⟩, fun near => ⟨near.low, near.high⟩⟩
  · rename_i odd
    exact ⟨fun ⟨low, high⟩ => ⟨low.le, high.le, fun _ => ⟨low, high⟩⟩,
      fun near => near.odd (by omega)⟩

end DesignTokens.Decimal
