import DesignTokens.Decimal.Binary

/-!
# Reading decimals

A number literal denotes an exact decimal value.  A number on its own is read as
the double nearest to that value.  Numbers in documents are read faster: digits
are kept as long as they fit into 64 bits, and what they stand for is rounded,
scaled by a power of ten and rounded again.  With many digits this may come to a
neighbour of the nearest double.

Key definitions:

* `Literal` is a number literal taken apart, and `Literal.ofChars?` reads one.
* `nearest` rounds an exact decimal value to a double, a half going to the even
  neighbour, and `Literal.toFloat` reads a literal so.
* `Literal.scaledFloat?` reads a literal in the fast way.
-/

namespace DesignTokens.Decimal

/-! ## Literals -/

/-- A number literal: the digits before the point, those after it, and the part
after the letter e. -/
structure Literal where
  negative : Bool
  whole : List Char
  places : List Char
  exponent : Option Int
deriving Repr, DecidableEq

/-- The value of a decimal digit. -/
def digitValue (c : Char) : Nat := c.toNat - '0'.toNat

/-- The value of a run of decimal digits. -/
def digitsValue (cs : List Char) : Nat := cs.foldl (fun n c => 10 * n + digitValue c) 0

/-- Whether a literal has neither point nor exponent. -/
def Literal.isWhole (l : Literal) : Bool := l.places.isEmpty && l.exponent.isNone

/-- The value of the digits of a literal without the point. -/
def Literal.coefficient (l : Literal) : Nat := digitsValue (l.whole ++ l.places)

/-- The power of ten that goes with these digits. -/
def Literal.scale (l : Literal) : Int := l.exponent.getD 0 - l.places.length

/-- Splits off the digits at the start of a text. -/
def takeDigits (cs : List Char) : List Char × List Char :=
  (cs.takeWhile Char.isDigit, cs.dropWhile Char.isDigit)

/-- Reads the digits before the point, which start with zero only if there are
no others. -/
def wholeDigits? (cs : List Char) : Option (List Char × List Char) :=
  match takeDigits cs with
  | ([], _) => none
  | ('0' :: _ :: _, _) => none
  | split => some split

/-- Reads the point and the digits after it, if there is a point. -/
def placeDigits? : List Char → Option (List Char × List Char)
  | '.' :: cs =>
    match takeDigits cs with
    | ([], _) => none
    | split => some split
  | cs => some ([], cs)

/-- Reads an exponent with its optional sign up to the end of the text. -/
def signedDigits? (cs : List Char) : Option Int :=
  let (negative, ds) : Bool × List Char := match cs with
    | '-' :: ds => (true, ds)
    | '+' :: ds => (false, ds)
    | ds => (false, ds)
  match takeDigits ds with
  | ([], _) => none
  | (run, []) => some (if negative then -(digitsValue run : Int) else digitsValue run)
  | (_, _ :: _) => none

/-- Reads the exponent part up to the end of the text: nothing, or the letter e
and a number. -/
def exponentPart? : List Char → Option (Option Int)
  | [] => some none
  | c :: cs => if c = 'e' || c = 'E' then (signedDigits? cs).map some else none

/-- Reads a whole text as a number literal. -/
def Literal.ofChars? (cs : List Char) : Option Literal := do
  let (negative, unsigned) : Bool × List Char := match cs with
    | '-' :: rest => (true, rest)
    | rest => (false, rest)
  let (whole, afterWhole) ← wholeDigits? unsigned
  let (places, afterPlaces) ← placeDigits? afterWhole
  let exponent ← exponentPart? afterPlaces
  return { negative, whole, places, exponent }

/-! ## The nearest double -/

/-- The bits of positive infinity. -/
def infinityBits : Nat := 2047 * Nat.pow 2 52

/-- The bits of the double nearest to a positive fraction.  The coefficient is
sought between `2 ^ 52` and `2 ^ 53`, or below for the smallest doubles; when
rounding reaches `2 ^ 53` the sum carries into the exponent as it should. -/
def fractionBits (f : Fraction) : Nat :=
  let guess : Int := (f.numerator.log2 : Int) - f.denominator.log2 - 52
  let quotient (e : Int) : Fraction :=
    let unit := Fraction.scaled 1 2 e
    ⟨f.numerator * unit.denominator, f.denominator * unit.numerator⟩
  let exponent :=
    let q := quotient guess
    if q.numerator < Nat.pow 2 52 * q.denominator then guess - 1 else guess
  let bounded := max exponent leastExponent
  let q := quotient bounded
  min infinityBits
    ((bounded - leastExponent).toNat * Nat.pow 2 52 + roundHalfEven q.numerator q.denominator)

/-- The double nearest to `coefficient * 10 ^ exponent` with the given sign.
Values beyond the largest double become infinite.  Exponents far out of range
are decided by the number of digits alone. -/
def nearest (negative : Bool) (coefficient : Nat) (exponent : Int) : Float :=
  let size : Int := (Nat.toDigits 10 coefficient).length + exponent
  let magnitude :=
    if coefficient = 0 ∨ size < -330 then 0
    else if 310 < size then infinityBits
    else fractionBits (Fraction.scaled coefficient 10 exponent)
  Float.ofBits (UInt64.ofNat (magnitude + if negative then Nat.pow 2 63 else 0))

/-- The double nearest to a literal. -/
def Literal.toFloat (l : Literal) : Float := nearest l.negative l.coefficient l.scale

/-- The double nearest to an integer. -/
def floatOfInt (n : Int) : Float := nearest (n < 0) n.natAbs 0

/-! ## Scaled significands -/

/-- The largest number of 64 bits. -/
def greatestSignificand : Nat := 18446744073709551615

/-- The exponent of the largest power of ten among the doubles. -/
def greatestPower : Nat := 308

/-- Puts digits behind a significand until one of them does not fit, and gives
the digits that are left. -/
def gather (significand : Nat) : List Char → Nat × List Char
  | [] => (significand, [])
  | c :: cs =>
    let longer := 10 * significand + digitValue c
    if longer ≤ greatestSignificand then gather longer cs else (significand, c :: cs)

/-- The double nearest to a power of ten. -/
def powerOfTen (e : Nat) : Float := nearest false 1 e

/-- A double multiplied by a power of ten.  From zero apart, a power that is no
double leads beyond all doubles. -/
def raised? (x : Float) (e : Nat) : Option Float :=
  if e ≤ greatestPower then some (x * powerOfTen e)
  else if x == 0.0 then some x
  else none

/-- A double divided by a power of ten, step by step where the power is no
double. -/
def lowered (x : Float) (e : Nat) : Float :=
  if e ≤ greatestPower then x / powerOfTen e
  else if x == 0.0 then x
  else lowered (x / powerOfTen greatestPower) (e - greatestPower)
termination_by e
decreasing_by simp only [greatestPower] at *; omega

/-- The double that a literal in a document is read as.  The first digit before
the point that does not fit and all behind it count as powers of ten, and after
the point they are dropped. -/
def Literal.scaledFloat? (l : Literal) : Option Float :=
  let (whole, rest) := gather 0 l.whole
  let (significand, cut) := gather whole l.places
  let exponent : Int := l.exponent.getD 0 + rest.length - (l.places.length - cut.length)
  let x := nearest false significand 0
  let scaled? := match exponent with
    | .ofNat e => raised? x e
    | .negSucc e => some (lowered x (e + 1))
  scaled?.map (fun y => if l.negative then -y else y)

end DesignTokens.Decimal
