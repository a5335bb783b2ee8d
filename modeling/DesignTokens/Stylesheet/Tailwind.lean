import DesignTokens.Stylesheet.Sheet
import DesignTokens.Json.Writer

/-!
# Sheets as a Tailwind configuration

The custom properties are sorted into the parts of a theme.

Key definitions: `Sheet.themePart`, `Sheet.tailwind`.
-/

namespace DesignTokens

/-- The rest of a text behind its start. -/
def behind? (start text : String) : Option String :=
  (start.toList.isPrefixOf? text.toList).map String.ofList

namespace Sheet

/-- The custom properties whose names start alike, under the rest of their
names. -/
def themePart (s : Sheet) (start : String) : List (String × String) :=
  s.properties.entries.filterMap (fun v => (behind? start v.1).map (fun name => (name, v.2)))

/-- The document of a part of a theme. -/
def themeJson (part : List (String × String)) : Json :=
  .obj (part.map (fun v => (v.1, .str v.2)))

/-- The configuration object of a sheet. -/
def tailwindJson (s : Sheet) : Json :=
  .obj [("theme", .obj [("extend", .obj
    [("colors", themeJson (s.themePart colorStart)),
      ("fontSize", themeJson (s.themePart fontSizeStart)),
      ("lineHeight", themeJson (s.themePart lineHeightStart))])])]

/-- A sheet as a Tailwind configuration. -/
def tailwind (s : Sheet) : String := "module.exports = " ++ s.tailwindJson.pretty ++ ";\n"

end Sheet

end DesignTokens
