import DesignTokens.Decimal.Shortest

/-!
# Layout of decimals

A decimal is written positionally, `0.00012`, or with an exponent, `1.2e-4`.
Which form a text takes is up to the format it belongs to, and a `Layout` holds
the choices of one format.

Key definitions: `Layout`, `Layout.text`.
-/

namespace DesignTokens.Decimal

/-- The choices of a format for the text of doubles. -/
structure Layout where
  /-- Whether a number whose first digit has this exponent is positional. -/
  positional : Int → Bool
  /-- What follows the digits of a whole number in positional form. -/
  wholeEnd : String
  /-- Which way a value halfway between two shortest decimals goes. -/
  tie : Tie

/-- The decimal digits of a natural number. -/
def digits (n : Nat) : List Char := Nat.toDigits 10 n

/-- The text of a natural number. -/
def wholeText (n : Nat) : String := String.ofList (digits n)

/-- The text of an exponent, with its sign. -/
def exponentText (e : Int) : String :=
  match e with
  | .ofNat n => "e+" ++ String.ofList (digits n)
  | .negSucc n => "e-" ++ String.ofList (digits (n + 1))

/-- The digits of `coefficient * 10 ^ exponent` with the point in its place. -/
def positionalText (layout : Layout) (d : Scientific) : String :=
  let ds := digits d.coefficient
  match d.exponent with
  | .ofNat e => String.ofList (ds ++ List.replicate e '0') ++ layout.wholeEnd
  | .negSucc e =>
    let places := e + 1
    if places < ds.length then
      String.ofList (ds.take (ds.length - places)) ++ "."
        ++ String.ofList (ds.drop (ds.length - places))
    else "0." ++ String.ofList (List.replicate (places - ds.length) '0' ++ ds)

/-- One digit before the point, the others after it, and an exponent. -/
def exponentialText (d : Scientific) : String :=
  match digits d.coefficient with
  | [] => ""
  | c :: cs =>
    let mantissa := if cs.isEmpty then [c] else c :: '.' :: cs
    String.ofList mantissa ++ exponentText (d.exponent + cs.length)

/-- The text of a positive decimal in the form that its size asks for. -/
def Layout.magnitudeText (layout : Layout) (d : Scientific) : String :=
  if layout.positional (d.exponent + (digits d.coefficient).length - 1) then
    positionalText layout d
  else exponentialText d

/-- The text of a double: its sign and its shortest decimal. -/
def Layout.text (layout : Layout) (x : Float) : String :=
  match Double.ofFloat x with
  | .notANumber => "NaN"
  | .infinite negative => if negative then "-inf" else "inf"
  | .finite negative coefficient exponent =>
    let sign := if negative then "-" else ""
    if coefficient = 0 then sign ++ "0" ++ layout.wholeEnd
    else sign ++ layout.magnitudeText (shortest layout.tie coefficient exponent)

end DesignTokens.Decimal
