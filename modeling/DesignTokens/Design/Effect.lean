import DesignTokens.Design.Color

/-!
# Effects

Shadows and blurs of a node.

Key definitions: `EffectKind`, `Offset`, `Effect`.
-/

namespace DesignTokens

/-! ## Kinds -/

/-- The kinds of effects. -/
inductive EffectKind where
  | dropShadow
  | innerShadow
  | layerBlur
  | backgroundBlur
  | other
deriving Repr, DecidableEq

instance : Alternatives EffectKind where
  all := [.dropShadow, .innerShadow, .layerBlur, .backgroundBlur, .other]
  name
    | .dropShadow => "DROP_SHADOW"
    | .innerShadow => "INNER_SHADOW"
    | .layerBlur => "LAYER_BLUR"
    | .backgroundBlur => "BACKGROUND_BLUR"
    | .other => "OTHER"
  unknown := some .other

/-- Whether effects of a kind are shadows. -/
def EffectKind.isShadow : EffectKind → Bool
  | .dropShadow | .innerShadow => true
  | _ => false

/-- Whether effects of a kind are blurs. -/
def EffectKind.isBlur : EffectKind → Bool
  | .layerBlur | .backgroundBlur => true
  | _ => false

/-! ## Offsets -/

/-- How far a shadow is moved to the right and down. -/
structure Offset where
  x : Float
  y : Float
deriving Repr, BEq

/-- No offset. -/
def Offset.zero : Offset := ⟨0.0, 0.0⟩

instance : ToJson Offset := ⟨fun o => .obj [("x", toJson o.x), ("y", toJson o.y)]⟩

instance : OfJson Offset where
  ofJson? j := do
    let fields ← j.record? [Json.field "x", Json.field "y"]
    let x ← Json.required? fields "x"
    let y ← Json.required? fields "y"
    return { x, y }

/-! ## Effects -/

/-- An effect of a node. -/
structure Effect where
  kind : EffectKind
  radius : Float
  spread : Option Float
  offset : Option Offset
  color : Option Color
  visible : Option Bool
deriving Repr, BEq

namespace Effect

/-- A shadow of a kind. -/
def shadow (kind : EffectKind) (offset : Offset) (radius : Float) (color : Color) : Effect :=
  ⟨kind, radius, none, some offset, some color, none⟩

/-- An effect of a kind with nothing but a radius. -/
def blur (kind : EffectKind) (radius : Float) : Effect :=
  ⟨kind, radius, none, none, none, none⟩

/-- The fields of an effect. -/
def knownFields : List Json.Field :=
  [Json.field "type", Json.field "radius", Json.field "spread", Json.field "offset",
    Json.field "color", Json.field "visible"]

instance : ToJson Effect where
  toJson e := .obj <|
    [("type", toJson e.kind), ("radius", toJson e.radius)]
      ++ Json.optionalField "spread" e.spread ++ Json.optionalField "offset" e.offset
      ++ Json.optionalField "color" e.color ++ Json.optionalField "visible" e.visible

instance : OfJson Effect where
  ofJson? j := do
    let fields ← j.record? knownFields
    let kind ← Json.required? fields "type"
    let radius ← Json.orElse? fields "radius" 0.0
    let spread ← Json.optional? fields "spread"
    let offset ← Json.optional? fields "offset"
    let color ← Json.optional? fields "color"
    let visible ← Json.optional? fields "visible"
    return { kind, radius, spread, offset, color, visible }

end Effect

end DesignTokens
