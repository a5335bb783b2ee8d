import DesignTokens.Decimal.Binary

/-!
# Shortest decimals

The text of a double carries the fewest digits from which the same double is
read back, and of several texts of that length the one nearest to the exact
value.  An exact value that lies halfway between two candidates is decided by
the `Tie` that the caller asks for.

Key definitions:

* `Interval` holds an exact value with the bounds of the values that are read
  back as it.
* `onGrid` looks for a hit among the two neighbours of the value on a decimal
  grid.
* `shortest` tries finer and finer grids.
-/

namespace DesignTokens.Decimal

/-! ## Digits of natural numbers -/

/-- The number of decimal digits. -/
def digitCount (n : Nat) : Nat :=
  if n < 10 then 1 else digitCount (n / 10) + 1

/-- How many times `numerator` has to be multiplied by ten to reach
`denominator`. -/
def tensMissing (numerator denominator : Nat) : Nat :=
  if h : numerator = 0 ∨ denominator ≤ numerator then 0
  else tensMissing (10 * numerator) denominator + 1
termination_by denominator - numerator
decreasing_by omega

/-- The exponent of the first decimal digit of a positive fraction. -/
def leadingExponent (f : Fraction) : Int :=
  if f.denominator ≤ f.numerator then (digitCount (f.numerator / f.denominator) : Int) - 1
  else -(tensMissing f.numerator f.denominator : Int)

/-! ## The values that are read back -/

/-- Which neighbour an exact value halfway between two takes. -/
inductive Tie where
  | up
  | even
deriving Repr, DecidableEq

/-- An exact value and the bounds between which a decimal is read back as it.
All three are numerators over one denominator. -/
structure Interval where
  low : Nat
  value : Nat
  high : Nat
  denominator : Nat
  /-- Whether the bounds belong to the interval. -/
  closed : Bool
deriving Repr, DecidableEq

/-- The interval of the positive double `coefficient * 2 ^ exponent`.  It
reaches half way to the neighbours, and the neighbour below a power of two is
twice as near as the one above.  A bound is read back as the neighbour with the
even coefficient. -/
def Interval.ofDouble (coefficient : Nat) (exponent : Int) : Interval :=
  let below := if coefficient = Nat.pow 2 52 ∧ leastExponent < exponent then 1 else 2
  let scale := Fraction.scaled 1 2 (exponent - 2)
  { low := (4 * coefficient - below) * scale.numerator
    value := 4 * coefficient * scale.numerator
    high := (4 * coefficient + 2) * scale.numerator
    denominator := scale.denominator
    closed := coefficient % 2 == 0 }

/-! ## Decimals -/

/-- The value `coefficient * 10 ^ exponent`. -/
structure Scientific where
  coefficient : Nat
  exponent : Int
deriving Repr, DecidableEq

/-- The same value with no zero at the end of its coefficient. -/
def Scientific.reduced (d : Scientific) : Scientific :=
  if h : d.coefficient ≠ 0 ∧ d.coefficient % 10 = 0 then
    Scientific.reduced ⟨d.coefficient / 10, d.exponent + 1⟩
  else d
termination_by d.coefficient
decreasing_by omega

/-- Whether the decimal is read back as the double of the interval. -/
def Interval.contains (i : Interval) (d : Scientific) : Bool :=
  let f := Fraction.scaled d.coefficient 10 d.exponent
  let low := i.low * f.denominator
  let here := f.numerator * i.denominator
  let high := i.high * f.denominator
  if i.closed then low ≤ here && here ≤ high else low < here && here < high

/-- Looks for a decimal of the interval among the two neighbours of its value
on the grid of multiples of `10 ^ exponent`, and takes the nearer of two. -/
def Interval.onGrid (i : Interval) (tie : Tie) (exponent : Int) : Option Scientific :=
  let unit := Fraction.scaled 1 10 exponent
  let numerator := i.value * unit.denominator
  let denominator := i.denominator * unit.numerator
  let floor := numerator / denominator
  let twice := 2 * (numerator % denominator)
  let lower : Scientific := ⟨floor, exponent⟩
  let upper : Scientific := ⟨floor + 1, exponent⟩
  match i.contains lower, i.contains upper with
  | true, true =>
    if twice < denominator then some lower
    else if denominator < twice then some upper
    else match tie with
      | .up => some upper
      | .even => some (if floor % 2 = 0 then lower else upper)
  | true, false => some lower
  | false, true => some upper
  | false, false => none

/-- The shortest decimal of a positive double.  Seventeen digits always
suffice, so the last alternative is never taken. -/
def shortest (tie : Tie) (coefficient : Nat) (exponent : Int) : Scientific :=
  let i := Interval.ofDouble coefficient exponent
  let first := leadingExponent ⟨i.value, i.denominator⟩
  match (List.range 17).findSome? (fun n : Nat => i.onGrid tie (first - n)) with
  | some d => d.reduced
  | none => ⟨coefficient, exponent⟩

end DesignTokens.Decimal
