import DesignTokens.Stylesheet.Sheet
import DesignTokens.Text.Lines

/-!
# Sheets as CSS

One block for the custom properties, then one rule for each utility class.

Key definition: `Sheet.css`.
-/

namespace DesignTokens

/-- The value of a declaration in CSS. -/
def StyleValue.css : StyleValue → String
  | .property name => "var(--" ++ name ++ ")"
  | .literal text => text

/-- The lines of a rule. -/
def ruleLines (selector : String) (declarations : List (String × String)) : List String :=
  [selector ++ " \x7b"]
    ++ declarations.map (fun d => "  " ++ d.1 ++ ": " ++ d.2 ++ ";")
    ++ ["\x7d"]

/-- The lines of a utility class in CSS. -/
def Utility.cssLines (u : Utility) : List String :=
  ruleLines u.selector (u.declarations.map (fun d => (d.property, d.value.css)))

namespace Sheet

/-- The lines of a sheet in CSS. -/
def cssLines (s : Sheet) : List String :=
  ruleLines ":root" (s.properties.entries.map (fun v => ("--" ++ v.1, v.2)))
    ++ s.utilities.values.flatMap (fun u => "" :: u.cssLines)

/-- A sheet in CSS. -/
def css (s : Sheet) : String := Text.unlines s.cssLines

end Sheet

end DesignTokens
