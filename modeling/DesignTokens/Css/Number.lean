import DesignTokens.Decimal.Layout

/-!
# Numbers in stylesheets

Stylesheets and generated sources write numbers with as few digits as read
back, never with an exponent, and whole numbers without a point.

Key definitions: `Css.plain`, `Css.number`, `Css.pixels`.
-/

namespace DesignTokens.Css

/-- The choices for numbers in stylesheets: always positional, nothing behind
whole numbers, and a half goes up. -/
def numberLayout : Decimal.Layout where
  positional := fun _ => true
  wholeEnd := ""
  tie := .up

/-- The text of a number, with the sign of a negative zero. -/
def plain (x : Float) : String := numberLayout.text x

/-- The text of a number, without the sign of a negative zero. -/
def number (x : Float) : String := if x == 0.0 then "0" else plain x

/-- A length in pixels. -/
def pixels (x : Float) : String := number x ++ "px"

end DesignTokens.Css
