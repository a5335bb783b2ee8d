import DesignTokens.Css.Number
import DesignTokens.Json.Record

/-!
# Arrangement of children

How a frame arranges its children: the direction, the constraints of both axes
and the padding.

Key definitions: `LayoutMode`, `VerticalConstraint`, `HorizontalConstraint`,
`Constraints`, `Padding`.
-/

namespace DesignTokens

/-! ## Modes -/

/-- The direction in which a frame lays out its children. -/
inductive LayoutMode where
  | none
  | horizontal
  | vertical
  | grid
  | other
deriving Repr, DecidableEq

instance : Alternatives LayoutMode where
  all := [.none, .horizontal, .vertical, .grid, .other]
  name
    | .none => "NONE"
    | .horizontal => "HORIZONTAL"
    | .vertical => "VERTICAL"
    | .grid => "GRID"
    | .other => "OTHER"
  unknown := some .other

/-! ## Constraints -/

/-- How a node follows its frame vertically. -/
inductive VerticalConstraint where
  | top
  | bottom
  | center
  | scale
  | topBottom
deriving Repr, DecidableEq

instance : Alternatives VerticalConstraint where
  all := [.top, .bottom, .center, .scale, .topBottom]
  name
    | .top => "TOP"
    | .bottom => "BOTTOM"
    | .center => "CENTER"
    | .scale => "SCALE"
    | .topBottom => "TOP_BOTTOM"

/-- How a node follows its frame horizontally. -/
inductive HorizontalConstraint where
  | left
  | right
  | center
  | scale
  | leftRight
deriving Repr, DecidableEq

instance : Alternatives HorizontalConstraint where
  all := [.left, .right, .center, .scale, .leftRight]
  name
    | .left => "LEFT"
    | .right => "RIGHT"
    | .center => "CENTER"
    | .scale => "SCALE"
    | .leftRight => "LEFT_RIGHT"

/-- The constraints of both axes. -/
structure Constraints where
  vertical : VerticalConstraint
  horizontal : HorizontalConstraint
deriving Repr, DecidableEq

namespace Constraints

/-- The constraints of a node that declares none. -/
def topLeft : Constraints := ⟨.top, .left⟩

instance : ToJson Constraints where
  toJson c := .obj [("vertical", toJson c.vertical), ("horizontal", toJson c.horizontal)]

instance : OfJson Constraints where
  ofJson? j := do
    let fields ← j.record? [Json.field "vertical", Json.field "horizontal"]
    let vertical ← Json.required? fields "vertical"
    let horizontal ← Json.required? fields "horizontal"
    return { vertical, horizontal }

end Constraints

/-! ## Padding -/

/-- The padding of the four sides of a frame, in pixels. -/
structure Padding where
  top : Float
  right : Float
  bottom : Float
  left : Float
deriving Repr, BEq

namespace Padding

/-- The same padding on all sides. -/
def uniform (x : Float) : Padding := ⟨x, x, x, x⟩

/-- Whether all sides have the same padding. -/
def isUniform (p : Padding) : Bool := p.top == p.right && p.right == p.bottom && p.bottom == p.left

/-- The padding as a stylesheet value, clockwise from the top. -/
def css (p : Padding) : String :=
  Css.plain p.top ++ "px " ++ Css.plain p.right ++ "px " ++ Css.plain p.bottom ++ "px "
    ++ Css.plain p.left ++ "px"

/-- The fields of a padding. -/
def knownFields : List Json.Field :=
  [Json.field "top", Json.field "right", Json.field "bottom", Json.field "left"]

instance : ToJson Padding where
  toJson p := .obj
    [("top", toJson p.top), ("right", toJson p.right), ("bottom", toJson p.bottom),
      ("left", toJson p.left)]

instance : OfJson Padding where
  ofJson? j := do
    let fields ← j.record? knownFields
    let top ← Json.required? fields "top"
    let right ← Json.required? fields "right"
    let bottom ← Json.required? fields "bottom"
    let left ← Json.required? fields "left"
    return { top, right, bottom, left }

end Padding

end DesignTokens
