import DesignTokens.Token.Payload

/-!
# Utility classes of layouts

Frameworks for stylesheets have classes for the direction, the padding and the
gaps of a layout.

Key definitions: `UtilityScheme`, `UtilityScheme.tailwind`,
`UtilityScheme.bootstrap`, `Layout.classes`.
-/

namespace DesignTokens

/-- The names of utility classes. -/
structure UtilityScheme where
  row : String
  column : String
  grid : String
  paddingTop : String
  paddingRight : String
  paddingBottom : String
  paddingLeft : String
deriving Repr, DecidableEq

namespace UtilityScheme

/-- The classes of Tailwind. -/
def tailwind : UtilityScheme where
  row := "flex flex-row"
  column := "flex flex-col"
  grid := "grid"
  paddingTop := "pt"
  paddingRight := "pr"
  paddingBottom := "pb"
  paddingLeft := "pl"

/-- The classes of Bootstrap. -/
def bootstrap : UtilityScheme where
  row := "d-flex flex-row"
  column := "d-flex flex-column"
  grid := "d-grid"
  paddingTop := "pt"
  paddingRight := "pe"
  paddingBottom := "pb"
  paddingLeft := "ps"

end UtilityScheme

namespace Layout

/-- The step of a distance on the scale of utility classes, four pixels each. -/
def scaleStep (x : Float) : String := Css.number (x / 4.0)

/-- A class for a distance. -/
def stepClass (name : String) (x : Float) : String := name ++ "-" ++ scaleStep x

/-- The classes of a direction. -/
def modeClasses (scheme : UtilityScheme) : LayoutMode → List String
  | .horizontal => [scheme.row]
  | .vertical => [scheme.column]
  | .grid => [scheme.grid]
  | .none | .other => []

/-- The classes of a padding: one if all sides are alike, and one a side
otherwise. -/
def paddingClasses (scheme : UtilityScheme) (p : Padding) : List String :=
  if p.isUniform then [stepClass "p" p.top]
  else
    [stepClass scheme.paddingTop p.top, stepClass scheme.paddingRight p.right,
      stepClass scheme.paddingBottom p.bottom, stepClass scheme.paddingLeft p.left]

/-- The class of the distance between items.  No distance needs no class. -/
def gapClasses (x : Float) : List String := if x == 0.0 then [] else [stepClass "gap" x]

/-- The list of utility classes of a layout. -/
def classList (scheme : UtilityScheme) (l : Layout) : List String :=
  modeClasses scheme l.mode
    ++ (match l.padding with
      | some p => paddingClasses scheme p
      | none => [])
    ++ (match l.itemSpacing with
      | some x => gapClasses x
      | none => [])

/-- The utility classes of a layout, with spaces between them. -/
def classes (scheme : UtilityScheme) (l : Layout) : String :=
  " ".intercalate (classList scheme l)

end Layout

end DesignTokens
