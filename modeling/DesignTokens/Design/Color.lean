import DesignTokens.Css.Number
import DesignTokens.Json.Record

/-!
# Colors

A color has red, green and blue channels and an opacity, each between zero and
one.  Stylesheets want the channels on a scale up to 255.

Key definitions:

* `Color` is the type of colors.
* `Color.exactCss` writes the scaled channels as they are.
* `Color.roundedCss` writes them as whole numbers.
-/

namespace DesignTokens

/-- A color with channels between zero and one. -/
structure Color where
  red : Float
  green : Float
  blue : Float
  alpha : Float
deriving Repr, BEq, Inhabited

namespace Color

/-- An opaque color. -/
def opaqueOf (red green blue : Float) : Color := ⟨red, green, blue, 1.0⟩

/-- A channel on the scale up to 255. -/
def scaled (channel : Float) : Float := channel * 255.0

/-- A channel as a whole number up to 255. -/
def rounded (channel : Float) : Nat := Decimal.roundedWithin 255 (scaled channel)

/-- The three channels on the scale up to 255. -/
def scaledChannels (c : Color) : List Float := [scaled c.red, scaled c.green, scaled c.blue]

/-- The three channels as whole numbers up to 255. -/
def roundedChannels (c : Color) : List Nat := [rounded c.red, rounded c.green, rounded c.blue]

/-- The color function of stylesheets, applied to the texts of the channels. -/
def functionText (red green blue alpha : String) : String :=
  "rgba(" ++ red ++ ", " ++ green ++ ", " ++ blue ++ ", " ++ alpha ++ ")"

/-- The color with unrounded channels. -/
def exactCss (c : Color) : String :=
  functionText (Css.plain (scaled c.red)) (Css.plain (scaled c.green))
    (Css.plain (scaled c.blue)) (Css.plain c.alpha)

/-- The color with channels rounded to whole numbers.  Its opacity stays as it
is. -/
def roundedCss (c : Color) : String :=
  functionText (Decimal.wholeText (rounded c.red)) (Decimal.wholeText (rounded c.green))
    (Decimal.wholeText (rounded c.blue)) (Css.plain c.alpha)

/-! ## JSON form -/

/-- The fields of a color.  A color without opacity is opaque. -/
def knownFields : List Json.Field :=
  [Json.field "r", Json.field "g", Json.field "b", Json.field "a"]

/-- The color that a list of fields describes. -/
def ofFields? (fields : List (String × Json)) : Option Color := do
  let red ← Json.required? fields "r"
  let green ← Json.required? fields "g"
  let blue ← Json.required? fields "b"
  let alpha ← Json.orElse? fields "a" 1.0
  return { red, green, blue, alpha }

/-- The fields that describe a color. -/
def toFields (c : Color) : List (String × Json) :=
  [("r", toJson c.red), ("g", toJson c.green), ("b", toJson c.blue), ("a", toJson c.alpha)]

instance : ToJson Color := ⟨fun c => .obj c.toFields⟩

instance : OfJson Color := ⟨fun j => (j.record? knownFields).bind ofFields?⟩

end Color

end DesignTokens
