import DesignTokens.Stylesheet.Sheet
import DesignTokens.Text.Lines

/-!
# Sheets as SCSS

Variables, two mixins, and the utility classes of each family nested in one
block.

Key definitions: `Sheet.families`, `Sheet.scss`.
-/

namespace DesignTokens

/-- The value of a declaration in SCSS. -/
def StyleValue.scss : StyleValue → String
  | .property name => "$" ++ name
  | .literal text => text

/-- The lines of the mixins. -/
def mixinLines : List String :=
  ["@mixin flex-layout($direction: row) \x7b",
    "  display: flex;",
    "  flex-direction: $direction;",
    "\x7d",
    "",
    "@mixin typography($size, $weight, $height) \x7b",
    "  font-size: $size;",
    "  font-weight: $weight;",
    "  line-height: $height;",
    "\x7d"]

/-- The lines of a utility class inside the block of its family. -/
def Utility.scssLines (u : Utility) : List String :=
  ["  &-" ++ u.name ++ " \x7b"]
    ++ u.declarations.map (fun d => "    " ++ d.property ++ ": " ++ d.value.scss ++ ";")
    ++ ["  \x7d"]

namespace Sheet

/-- Families in the order in which they come up, each with its utility
classes. -/
def families (us : List Utility) : OrderedMap UtilityFamily (List Utility) :=
  us.foldl (fun m u => m.alter u.family (fun earlier => earlier.getD [] ++ [u])) .empty

/-- The lines of the block of a family. -/
def familyLines (family : UtilityFamily) (us : List Utility) : List String :=
  ["." ++ family.name ++ " \x7b"] ++ us.flatMap Utility.scssLines ++ ["\x7d"]

/-- The lines of a sheet in SCSS. -/
def scssLines (s : Sheet) : List String :=
  ["// Variables"]
    ++ s.properties.entries.map (fun v => "$" ++ v.1 ++ ": " ++ v.2 ++ ";")
    ++ ["", "// Mixins"] ++ mixinLines
    ++ ["", "// Utility Classes"]
    ++ List.intercalate [""]
        ((families s.utilities.values).entries.map (fun f => familyLines f.1 f.2))

/-- A sheet in SCSS. -/
def scss (s : Sheet) : String := Text.unlines s.scssLines

end Sheet

end DesignTokens
