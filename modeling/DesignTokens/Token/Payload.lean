import DesignTokens.Design.Node

/-!
# Payloads of tokens

A token is one fact about a design.  Its payload says what the fact is: a color,
a text style, a layout, an effect, or a whole component with everything in it.

Key definitions:

* `TokenKind` lists the kinds of payloads.
* `ColorUse`, `Typography`, `Layout`, `Shade` and `Component` are the payloads.
* `Payload` joins them.
-/

namespace DesignTokens

/-! ## Kinds -/

/-- The kinds of tokens. -/
inductive TokenKind where
  | color
  | typography
  | spacing
  | shadow
  | component
deriving Repr, DecidableEq

instance : Alternatives TokenKind where
  all := [.color, .typography, .spacing, .shadow, .component]
  name
    | .color => "color"
    | .typography => "typography"
    | .spacing => "spacing"
    | .shadow => "shadow"
    | .component => "component"
  synonyms := [("layout", .spacing), ("effect", .shadow)]

/-- Whether tokens of a kind are for the stylesheet of the whole project. -/
def TokenKind.isStyle : TokenKind → Bool
  | .component => false
  | _ => true

/-! ## Colors -/

/-- Whether a color fills a node or strokes it. -/
inductive PaintRole where
  | fill
  | stroke
deriving Repr, DecidableEq

instance : Alternatives PaintRole where
  all := [.fill, .stroke]
  name
    | .fill => "fill"
    | .stroke => "stroke"

/-- A color with its place in the list of fills or strokes of its node. -/
structure ColorUse where
  color : Color
  role : PaintRole
  index : UInt64
deriving Repr, BEq

instance : ToJson ColorUse where
  toJson u := .obj (u.color.toFields ++ [("role", toJson u.role), ("index", toJson u.index)])

/-- The channels stand beside the place in one object.  Since every field may
belong to the color, no part of the object may be unreadable. -/
instance : OfJson ColorUse where
  ofJson? j :=
    match j with
    | .obj given => do
      guard j.isReadable
      let fields ← (Json.obj given).record?
        (Color.knownFields ++ [Json.field "role", Json.field "index"])
      let color ← Color.ofFields? fields
      let role ← Json.orElse? fields "role" PaintRole.fill
      let index ← Json.orElse? fields "index" 0
      return { color, role, index }
    | _ => none

/-! ## Text styles -/

/-- A complete text style. -/
structure Typography where
  fontFamily : String
  fontWeight : Float
  fontSize : Float
  letterSpacing : Float
  lineHeight : LineHeight
  textDecoration : TextDecoration
  textCase : TextCase
deriving Repr, BEq

namespace Typography

/-- The style of a text that declares nothing. -/
def standard : Typography where
  fontFamily := ""
  fontWeight := 400.0
  fontSize := 16.0
  letterSpacing := 0.0
  lineHeight := .standard
  textDecoration := .none
  textCase := .asWritten

/-- Completes a text style. -/
def ofStyle (s : TextStyle) : Typography where
  fontFamily := s.fontFamily.getD standard.fontFamily
  fontWeight := s.fontWeight.getD standard.fontWeight
  fontSize := s.fontSize.getD standard.fontSize
  letterSpacing := s.letterSpacing.getD standard.letterSpacing
  lineHeight := s.lineHeight.getD standard.lineHeight
  textDecoration := s.textDecoration.getD standard.textDecoration
  textCase := s.textCase.getD standard.textCase

instance : ToJson Typography where
  toJson t := .obj
    [("fontFamily", toJson t.fontFamily), ("fontWeight", toJson t.fontWeight),
      ("fontSize", toJson t.fontSize), ("letterSpacing", toJson t.letterSpacing),
      ("lineHeight", toJson t.lineHeight), ("textDecoration", toJson t.textDecoration),
      ("textCase", toJson t.textCase)]

instance : OfJson Typography where
  ofJson? j := do
    let fields ← j.record? TextStyle.knownFields
    let fontFamily ← Json.orElse? fields "fontFamily" standard.fontFamily
    let fontWeight ← Json.orElse? fields "fontWeight" standard.fontWeight
    let fontSize ← Json.orElse? fields "fontSize" standard.fontSize
    let letterSpacing ← Json.orElse? fields "letterSpacing" standard.letterSpacing
    let lineHeight ← Json.orElse? fields "lineHeight" standard.lineHeight
    let textDecoration ← Json.orElse? fields "textDecoration" standard.textDecoration
    let textCase ← Json.orElse? fields "textCase" standard.textCase
    return { fontFamily, fontWeight, fontSize, letterSpacing, lineHeight, textDecoration, textCase }

end Typography

/-! ## Layouts -/

/-- How a node arranges its children. -/
structure Layout where
  mode : LayoutMode
  constraints : Constraints
  padding : Option Padding
  itemSpacing : Option Float
  counterAxisSpacing : Option Float
deriving Repr, BEq

namespace Layout

/-- The layout of a node that declares nothing. -/
def standard : Layout := ⟨.none, .topLeft, none, none, none⟩

/-- The fields of a layout. -/
def knownFields : List Json.Field :=
  [Json.field "layoutMode", Json.field "layoutConstraint", Json.field "padding",
    Json.field "itemSpacing", Json.field "counterAxisSpacing"]

instance : ToJson Layout where
  toJson l := .obj <|
    [("layoutMode", toJson l.mode), ("layoutConstraint", toJson l.constraints)]
      ++ Json.optionalField "padding" l.padding
      ++ Json.optionalField "itemSpacing" l.itemSpacing
      ++ Json.optionalField "counterAxisSpacing" l.counterAxisSpacing

instance : OfJson Layout where
  ofJson? j := do
    let fields ← j.record? knownFields
    let mode ← Json.orElse? fields "layoutMode" LayoutMode.none
    let constraints ← Json.orElse? fields "layoutConstraint" Constraints.topLeft
    let padding ← Json.optional? fields "padding"
    let itemSpacing ← Json.optional? fields "itemSpacing"
    let counterAxisSpacing ← Json.optional? fields "counterAxisSpacing"
    return { mode, constraints, padding, itemSpacing, counterAxisSpacing }

end Layout

/-! ## Effects -/

/-- A shadow or a blur, whether it is visible or not. -/
structure Shade where
  kind : EffectKind
  radius : Float
  spread : Option Float
  offset : Option Offset
  color : Option Color
deriving Repr, BEq

namespace Shade

/-- The payload of an effect. -/
def ofEffect (e : Effect) : Shade := ⟨e.kind, e.radius, e.spread, e.offset, e.color⟩

/-- The fields of an effect payload. -/
def knownFields : List Json.Field :=
  [Json.field "type", Json.field "radius", Json.field "spread", Json.field "offset",
    Json.field "color"]

instance : ToJson Shade where
  toJson s := .obj <|
    [("type", toJson s.kind), ("radius", toJson s.radius)]
      ++ Json.optionalField "spread" s.spread ++ Json.optionalField "offset" s.offset
      ++ Json.optionalField "color" s.color

instance : OfJson Shade where
  ofJson? j := do
    let fields ← j.record? knownFields
    let kind ← Json.required? fields "type"
    let radius ← Json.orElse? fields "radius" 0.0
    let spread ← Json.optional? fields "spread"
    let offset ← Json.optional? fields "offset"
    let color ← Json.optional? fields "color"
    return { kind, radius, spread, offset, color }

end Shade

/-! ## Components -/

/-- What a component looks like. -/
structure Appearance where
  fills : List Paint
  strokes : List Paint
  effects : List Effect
  layout : Layout
  typography : Option Typography
deriving Repr, BEq

namespace Appearance

/-- The appearance of a component that declares nothing. -/
def standard : Appearance := ⟨[], [], [], .standard, none⟩

/-- The fields of an appearance. -/
def knownFields : List Json.Field :=
  [Json.field "fills", Json.field "strokes", Json.field "effects", Json.field "layout",
    Json.field "typography"]

instance : ToJson Appearance where
  toJson a := .obj <|
    Json.listField "fills" a.fills ++ Json.listField "strokes" a.strokes
      ++ Json.listField "effects" a.effects ++ [("layout", toJson a.layout)]
      ++ Json.optionalField "typography" a.typography

instance : OfJson Appearance where
  ofJson? j := do
    let fields ← j.record? knownFields
    let fills ← Json.orElse? fields "fills" []
    let strokes ← Json.orElse? fields "strokes" []
    let effects ← Json.orElse? fields "effects" []
    let layout ← Json.orElse? fields "layout" Layout.standard
    let typography ← Json.optional? fields "typography"
    return { fills, strokes, effects, layout, typography }

end Appearance

/-- A component with the components inside it. -/
structure Component where
  id : String
  name : String
  key : String
  remote : Bool
  styles : Appearance
  children : List Component
deriving Repr, BEq

namespace Component

/-- A component that declares nothing but its name. -/
def bare (name : String) : Component := ⟨"", name, "", false, .standard, []⟩

/-- The component with a layout. -/
def withLayout (c : Component) (layout : Layout) : Component :=
  { c with styles := { c.styles with layout := layout } }

/-- The fields of a component. -/
def knownFields : List Json.Field :=
  [Json.field "id", Json.field "name", Json.field "key", Json.field "remote",
    Json.field "styles", Json.field "children"]

mutual

/-- The document of a component. -/
def toJson : Component → Json
  | ⟨id, name, key, remote, styles, children⟩ =>
    .obj ([("id", DesignTokens.toJson id), ("name", DesignTokens.toJson name),
        ("key", DesignTokens.toJson key), ("remote", DesignTokens.toJson remote),
        ("styles", DesignTokens.toJson styles)]
      ++ (if children.isEmpty then [] else [("children", .arr (toJsons children))]))

/-- The documents of several components. -/
def toJsons : List Component → List Json
  | [] => []
  | c :: cs => toJson c :: toJsons cs

end

instance : ToJson Component := ⟨toJson⟩

/-- Reads a component.  Only its name has to be there. -/
def ofJson? (j : Json) : Option Component :=
  match _whole : j.record? knownFields with
  | none => none
  | some fields => do
    let id ← Json.orElse? fields "id" ""
    let name ← Json.required? fields "name"
    let key ← Json.orElse? fields "key" ""
    let remote ← Json.orElse? fields "remote" false
    let styles ← Json.orElse? fields "styles" Appearance.standard
    let children ← match _found : Json.get? fields "children" with
      | none => some []
      | some (.arr items) => items.attach.mapM (fun ⟨item, _⟩ => ofJson? item)
      | some _ => none
    return { id, name, key, remote, styles, children }
termination_by sizeOf j
decreasing_by
  have inside := Json.sizeOf_lt_of_get? _whole _found
  rename_i mem
  have smaller := List.sizeOf_lt_of_mem mem
  simp only [Json.arr.sizeOf_spec] at inside
  omega

instance : OfJson Component := ⟨ofJson?⟩

end Component

/-! ## Payloads -/

/-- The payload of a token. -/
inductive Payload where
  | color (use : ColorUse)
  | typography (text : Typography)
  | spacing (layout : Layout)
  | shadow (shade : Shade)
  | component (value : Component)
deriving Repr, BEq

namespace Payload

/-- The kind of a payload. -/
def kind : Payload → TokenKind
  | .color _ => .color
  | .typography _ => .typography
  | .spacing _ => .spacing
  | .shadow _ => .shadow
  | .component _ => .component

instance : ToJson Payload where
  toJson
    | .color use => toJson use
    | .typography text => toJson text
    | .spacing layout => toJson layout
    | .shadow shade => toJson shade
    | .component value => toJson value

/-- Reads a payload of a kind. -/
def ofJson? (kind : TokenKind) (j : Json) : Option Payload :=
  match kind with
  | .color => (DesignTokens.ofJson? j).map .color
  | .typography => (DesignTokens.ofJson? j).map .typography
  | .spacing => (DesignTokens.ofJson? j).map .spacing
  | .shadow => (DesignTokens.ofJson? j).map .shadow
  | .component => (DesignTokens.ofJson? j).map .component

end Payload

end DesignTokens
