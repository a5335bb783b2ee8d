import DesignTokens.Design.Color

/-!
# Paints

The fills and strokes of a node are lists of paints.  Only a solid paint has a
color.

Key definitions: `PaintKind`, `Paint`, `Paint.solidColor?`.
-/

namespace DesignTokens

/-- The kinds of paints. -/
inductive PaintKind where
  | solid
  | gradientLinear
  | gradientRadial
  | gradientAngular
  | gradientDiamond
  | image
  | emoji
  | video
  | other
deriving Repr, DecidableEq

instance : Alternatives PaintKind where
  all := [.solid, .gradientLinear, .gradientRadial, .gradientAngular, .gradientDiamond, .image,
    .emoji, .video, .other]
  name
    | .solid => "SOLID"
    | .gradientLinear => "GRADIENT_LINEAR"
    | .gradientRadial => "GRADIENT_RADIAL"
    | .gradientAngular => "GRADIENT_ANGULAR"
    | .gradientDiamond => "GRADIENT_DIAMOND"
    | .image => "IMAGE"
    | .emoji => "EMOJI"
    | .video => "VIDEO"
    | .other => "OTHER"
  unknown := some .other

/-- A paint of a node. -/
structure Paint where
  kind : PaintKind
  color : Option Color
  opacity : Option Float
  visible : Option Bool
deriving Repr, BEq

namespace Paint

/-- A solid paint. -/
def solid (color : Color) : Paint := ⟨.solid, some color, none, none⟩

/-- The color of a solid paint. -/
def solidColor? (p : Paint) : Option Color :=
  match p.kind with
  | .solid => p.color
  | _ => none

/-- The fields of a paint. -/
def knownFields : List Json.Field :=
  [Json.field "type", Json.field "color", Json.field "opacity", Json.field "visible"]

instance : ToJson Paint where
  toJson p := .obj <|
    [("type", toJson p.kind)] ++ Json.optionalField "color" p.color
      ++ Json.optionalField "opacity" p.opacity ++ Json.optionalField "visible" p.visible

instance : OfJson Paint where
  ofJson? j := do
    let fields ← j.record? knownFields
    let kind ← Json.required? fields "type"
    let color ← Json.optional? fields "color"
    let opacity ← Json.optional? fields "opacity"
    let visible ← Json.optional? fields "visible"
    return { kind, color, opacity, visible }

end Paint

end DesignTokens
