import DesignTokens.Text.Lines
import DesignTokens.TokenSet.Basic

/-!
# Token sets as variables

A token set is exported as custom properties of CSS or as variables of SCSS.

Key definitions: `TokenSet.css`, `TokenSet.scss`.
-/

namespace DesignTokens

/-- The parts of a text style by name, in the order in which they are
exported. -/
def TypographyEntry.parts (e : TypographyEntry) : List (String × String) :=
  [("font-family", e.fontFamily),
    ("font-size", e.fontSize),
    ("font-weight", Decimal.wholeText e.fontWeight.toNat),
    ("line-height", Css.number e.lineHeight),
    ("letter-spacing", e.letterSpacing)]

namespace TokenSet

/-! ## Custom properties -/

/-- The line that declares a custom property. -/
def propertyLine (property : String × String) : String :=
  "  --" ++ property.1 ++ ": " ++ property.2 ++ ";"

/-- The custom properties of a map, behind the name of its kind. -/
def properties (kind : String) (m : OrderedMap String String) : List (String × String) :=
  m.entries.map (fun entry => (kind ++ "-" ++ Naming.kebab entry.1, entry.2))

/-- The custom properties of text styles, one for each part. -/
def typographyProperties (m : OrderedMap String TypographyEntry) : List (String × String) :=
  m.entries.flatMap (fun entry =>
    entry.2.parts.map (fun part =>
      ("typography-" ++ Naming.kebab entry.1 ++ "-" ++ part.1, part.2)))

/-- The custom properties of a token set. -/
def cssProperties (s : TokenSet) : List (String × String) :=
  properties "color" s.colors ++ typographyProperties s.typography
    ++ properties "spacing" s.spacing ++ properties "shadow" s.shadows

/-- A token set as one block of custom properties. -/
def css (s : TokenSet) : String :=
  Text.unlines ([":root \x7b"] ++ s.cssProperties.map propertyLine ++ ["\x7d"])

/-! ## Variables -/

/-- The lines that declare the variables of a map. -/
def variableLines (kind : String) (m : OrderedMap String String) : List String :=
  m.entries.map (fun entry => "$" ++ kind ++ "-" ++ Naming.kebab entry.1 ++ ": " ++ entry.2 ++ ";")

/-- The lines of the parts of a text style.  All but the last end with a
comma. -/
def partLines : List (String × String) → List String
  | [] => []
  | [part] => ["  " ++ part.1 ++ ": " ++ part.2]
  | part :: parts => ("  " ++ part.1 ++ ": " ++ part.2 ++ ",") :: partLines parts

/-- The lines that declare the variable of a text style. -/
def typographyLines (m : OrderedMap String TypographyEntry) : List String :=
  m.entries.flatMap (fun entry =>
    ["$typography-" ++ Naming.kebab entry.1 ++ ": ("] ++ partLines entry.2.parts ++ [");"])

/-- A token set as variables.  Every kind has its heading, even if there is
nothing below it. -/
def scss (s : TokenSet) : String :=
  Text.unlines <|
    ["// Design Tokens", "", "// Colors"] ++ variableLines "color" s.colors
      ++ ["", "// Typography"] ++ typographyLines s.typography
      ++ ["", "// Spacing"] ++ variableLines "spacing" s.spacing
      ++ ["", "// Shadows"] ++ variableLines "shadow" s.shadows

end TokenSet

end DesignTokens
