import DesignTokens.Stylesheet.Css
import DesignTokens.TokenSet.Basic

/-!
# Rules of components

Every component has a stylesheet of its own with one rule.

Key definitions:

* `Component.declarations` are the declarations of the rule.
* `Component.plainRule` writes them as they are.
* `Component.applyRule` writes them as utilities that the rule applies.
-/

namespace DesignTokens

/-! ## Declarations -/

/-- A shadow as a stylesheet value with an exact color and without spread. -/
def Effect.boxShadow (e : Effect) : String :=
  let offset := e.offset.getD .zero
  let color := (e.color.map Color.exactCss).getD Shade.standardColor
  Shade.inset e.kind ++ Css.pixels offset.x ++ " " ++ Css.pixels offset.y ++ " "
    ++ Css.pixels e.radius ++ " " ++ color

/-- A declaration of the first solid color of a list of paints. -/
def paintDeclaration (property : String) (paints : List Paint) : List (String × String) :=
  match paints.findSome? Paint.solidColor? with
  | some color => [(property, color.exactCss)]
  | none => []

/-- The declarations of a text style.  A missing font family is left out. -/
def Typography.declarations (t : Typography) : List (String × String) :=
  (if t.fontFamily.isEmpty then [] else [("font-family", t.fontFamily)])
    ++ [("font-size", Css.pixels t.fontSize),
      ("font-weight", Css.number t.fontWeight),
      ("letter-spacing", Css.pixels t.letterSpacing),
      ("line-height", t.lineHeight.css),
      ("text-decoration", t.textDecoration.css),
      ("text-transform", t.textCase.css)]

/-- The declaration of all shadows in a list of effects. -/
def shadowDeclaration (effects : List Effect) : List (String × String) :=
  match effects.filter (fun e => e.kind.isShadow) with
  | [] => []
  | shadows => [("box-shadow", ", ".intercalate (shadows.map Effect.boxShadow))]

namespace Component

/-- The declarations of a component: its colors, its text style, its shadows. -/
def declarations (c : Component) : List (String × String) :=
  paintDeclaration "background-color" c.styles.fills
    ++ paintDeclaration "border-color" c.styles.strokes
    ++ (match c.styles.typography with
      | some t => t.declarations
      | none => [])
    ++ shadowDeclaration c.styles.effects

/-! ## Rules -/

/-- The rule of a class with declarations as they are. -/
def plainRule (className : String) (declarations : List (String × String)) : String :=
  Text.unlines (ruleLines ("." ++ className) declarations)

/-- A value inside a utility, which cannot hold spaces. -/
def utilityValue (value : String) : String :=
  value.map (fun c => if c = ' ' then '_' else c)

/-- A declaration as a utility. -/
def utilityText (declaration : String × String) : String :=
  "[" ++ declaration.1 ++ ":" ++ utilityValue declaration.2 ++ "]"

/-- The rule of a class that applies its declarations as utilities. -/
def applyRule (className : String) (declarations : List (String × String)) : String :=
  Text.unlines <|
    ["." ++ className ++ " \x7b"]
      ++ (match declarations with
        | [] => []
        | ds => ["  @apply " ++ " ".intercalate (ds.map utilityText) ++ ";"])
      ++ ["\x7d"]

end Component

end DesignTokens
