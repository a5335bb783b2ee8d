import DesignTokens.Generation.File
import DesignTokens.Generation.Options
import DesignTokens.Naming.Identifier
import DesignTokens.Stylesheet.ComponentRule
import DesignTokens.Stylesheet.Scss
import DesignTokens.Stylesheet.Tailwind

/-!
# Stylesheet files

The stylesheet of the whole project and the stylesheets of its components.

Key definitions: `StyleFormat.globalFile`, `StyleFormat.componentFile`.
-/

namespace DesignTokens.StyleFormat

/-- The stylesheet of a project. -/
def globalText (format : StyleFormat) (ts : List Token) : String :=
  match format with
  | .css => (Sheet.ofTokens ts).css
  | .scss => (Sheet.ofTokens ts).scss
  | .tailwind => (Sheet.ofTokens ts).tailwind

/-- The stylesheet of a component. -/
def componentText (format : StyleFormat) (c : Component) : String :=
  match format with
  | .css | .scss => Component.plainRule (Naming.kebab c.name) c.declarations
  | .tailwind => Component.applyRule (Naming.kebab c.name) c.declarations

/-- The file of the stylesheet of a project. -/
def globalFile (format : StyleFormat) (ts : List Token) : GeneratedFile :=
  match format with
  | .css => ⟨"global.css", format.globalText ts, .style, ["styles"]⟩
  | .scss => ⟨"global.scss", format.globalText ts, .style, ["styles"]⟩
  | .tailwind => ⟨"tailwind.config.js", format.globalText ts, .style, []⟩

/-- The file of the stylesheet of a component. -/
def componentFile (format : StyleFormat) (c : Component) : GeneratedFile where
  fileName := Naming.pascal c.name ++ "." ++ format.extension
  content := format.componentText c
  kind := .style
  path := ["styles", "components"]

end DesignTokens.StyleFormat
