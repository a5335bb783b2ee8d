/-!
# Exact values of doubles

Numbers of a design document are doubles.  This module takes a double apart
into an exact value, `coefficient * 2 ^ exponent`, and rounds exact values in
natural number arithmetic.

Key definitions:

* `Double` lists the kinds of doubles, and `Double.ofFloat` finds the kind.
* `Fraction` is an exact nonnegative value.
* `roundHalfUp` and `roundHalfEven` round a quotient to a natural number.
* `roundedWithin` rounds a double to a natural number up to a limit.
-/

namespace DesignTokens.Decimal

/-! ## Kinds of doubles -/

/-- What a double stands for.  A finite one is
`coefficient * 2 ^ exponent`, negative zero being kept apart by its sign. -/
inductive Double where
  | notANumber
  | infinite (negative : Bool)
  | finite (negative : Bool) (coefficient : Nat) (exponent : Int)
deriving Repr, DecidableEq

/-- The exponent of the smallest positive double, `2 ^ (-1074)`. -/
def leastExponent : Int := -1074

/-- Takes a double apart by its bits: one sign bit, eleven bits of exponent
and fifty-two bits of fraction. -/
def Double.ofFloat (x : Float) : Double :=
  let bits := x.toBits.toNat
  let negative := bits / Nat.pow 2 63 % 2 == 1
  let field : Nat := bits / Nat.pow 2 52 % Nat.pow 2 11
  let fraction : Nat := bits % Nat.pow 2 52
  if field = 2047 then (if fraction = 0 then .infinite negative else .notANumber)
  else if field = 0 then .finite negative fraction leastExponent
  else .finite negative (Nat.pow 2 52 + fraction) (leastExponent + (field - 1))

/-- Whether a double is neither infinite nor the absence of a number. -/
def isFinite (x : Float) : Bool :=
  match Double.ofFloat x with
  | .finite .. => true
  | _ => false

/-! ## Exact values -/

/-- The exact value `numerator / denominator`. -/
structure Fraction where
  numerator : Nat
  denominator : Nat
deriving Repr, DecidableEq

/-- The exact value `coefficient * base ^ exponent`. -/
def Fraction.scaled (coefficient base : Nat) : Int → Fraction
  | .ofNat e => ⟨coefficient * Nat.pow base e, 1⟩
  | .negSucc e => ⟨coefficient, Nat.pow base (e + 1)⟩

/-! ## Rounding -/

/-- The quotient rounded to the nearest natural number, a half going up. -/
def roundHalfUp (numerator denominator : Nat) : Nat :=
  (2 * numerator + denominator) / (2 * denominator)

/-- The quotient rounded to the nearest natural number, a half going to the
even neighbour. -/
def roundHalfEven (numerator denominator : Nat) : Nat :=
  let low := numerator / denominator
  let twice := 2 * (numerator % denominator)
  if twice < denominator then low
  else if denominator < twice then low + 1
  else low + low % 2

/-- A double rounded to the nearest of the numbers `0`, ..., `limit`, a half
going up.  What is no number counts as zero. -/
def roundedWithin (limit : Nat) (x : Float) : Nat :=
  match Double.ofFloat x with
  | .notANumber => 0
  | .infinite negative => if negative then 0 else limit
  | .finite true _ _ => 0
  | .finite false coefficient exponent =>
    let value := Fraction.scaled coefficient 2 exponent
    min limit (roundHalfUp value.numerator value.denominator)

end DesignTokens.Decimal
