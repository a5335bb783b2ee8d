import DesignTokens.Design.Paint
import DesignTokens.Design.Effect
import DesignTokens.Design.Arrangement
import DesignTokens.Design.TextStyle

/-!
# Nodes of a design document

A design document is a tree of nodes.  What a node says about itself is apart
from the tree structure.

Key definitions:

* `NodeKind` lists the kinds of nodes.
* `Attributes` is what a node says about itself.
* `Node` is the tree.
* `Node.toJson` and `Node.ofJson?` are its JSON form.
-/

namespace DesignTokens

/-! ## Kinds -/

/-- The kinds of nodes. -/
inductive NodeKind where
  | document
  | canvas
  | frame
  | group
  | sectionFrame
  | vector
  | booleanOperation
  | star
  | line
  | ellipse
  | regularPolygon
  | rectangle
  | text
  | slice
  | component
  | componentSet
  | componentInstance
  | other
deriving Repr, DecidableEq

instance : Alternatives NodeKind where
  all := [.document, .canvas, .frame, .group, .sectionFrame, .vector, .booleanOperation, .star,
    .line, .ellipse, .regularPolygon, .rectangle, .text, .slice, .component, .componentSet,
    .componentInstance, .other]
  name
    | .document => "DOCUMENT"
    | .canvas => "CANVAS"
    | .frame => "FRAME"
    | .group => "GROUP"
    | .sectionFrame => "SECTION"
    | .vector => "VECTOR"
    | .booleanOperation => "BOOLEAN_OPERATION"
    | .star => "STAR"
    | .line => "LINE"
    | .ellipse => "ELLIPSE"
    | .regularPolygon => "REGULAR_POLYGON"
    | .rectangle => "RECTANGLE"
    | .text => "TEXT"
    | .slice => "SLICE"
    | .component => "COMPONENT"
    | .componentSet => "COMPONENT_SET"
    | .componentInstance => "INSTANCE"
    | .other => "OTHER"
  unknown := some .other

/-- Whether a node defines a reusable component or is an instance of one. -/
def NodeKind.isComponentLike : NodeKind → Bool
  | .component | .componentInstance => true
  | _ => false

/-- Whether a node is a text. -/
def NodeKind.isText : NodeKind → Bool
  | .text => true
  | _ => false

/-! ## Attributes -/

/-- What a node says about itself. -/
structure Attributes where
  id : String
  name : String
  kind : NodeKind
  fills : List Paint
  strokes : List Paint
  effects : List Effect
  style : Option TextStyle
  characters : Option String
  layoutMode : Option LayoutMode
  paddingTop : Option Float
  paddingRight : Option Float
  paddingBottom : Option Float
  paddingLeft : Option Float
  itemSpacing : Option Float
  counterAxisSpacing : Option Float
  constraints : Option Constraints
deriving Repr, BEq

namespace Attributes

/-- The attributes of a node of which only the name and the kind are known. -/
def bare (name : String) (kind : NodeKind) : Attributes where
  id := ""
  name := name
  kind := kind
  fills := []
  strokes := []
  effects := []
  style := none
  characters := none
  layoutMode := none
  paddingTop := none
  paddingRight := none
  paddingBottom := none
  paddingLeft := none
  itemSpacing := none
  counterAxisSpacing := none
  constraints := none

/-- The padding of a node if it declares any.  A side that it does not declare
is zero. -/
def padding? (a : Attributes) : Option Padding :=
  if a.paddingTop.isNone && a.paddingRight.isNone && a.paddingBottom.isNone
    && a.paddingLeft.isNone then none
  else some {
    top := a.paddingTop.getD 0.0
    right := a.paddingRight.getD 0.0
    bottom := a.paddingBottom.getD 0.0
    left := a.paddingLeft.getD 0.0 }

/-- The attributes with a padding on all four sides. -/
def withPadding (a : Attributes) (p : Padding) : Attributes :=
  { a with
    paddingTop := some p.top
    paddingRight := some p.right
    paddingBottom := some p.bottom
    paddingLeft := some p.left }

end Attributes

/-! ## Trees -/

/-- A node with the nodes inside it. -/
structure Node where
  own : Attributes
  children : List Node
deriving Repr, BEq

namespace Node

/-- The name of a node. -/
def name (n : Node) : String := n.own.name

mutual

/-- The number of nodes in a tree. -/
def count : Node → Nat
  | ⟨_, children⟩ => 1 + countAll children

/-- The number of nodes in several trees. -/
def countAll : List Node → Nat
  | [] => 0
  | n :: ns => count n + countAll ns

end

/-! ## JSON form -/

/-- The fields of a node. -/
def knownFields : List Json.Field :=
  ["id", "name", "type", "children", "fills", "strokes", "effects", "style", "characters",
    "layoutMode", "paddingTop", "paddingRight", "paddingBottom", "paddingLeft", "itemSpacing",
    "counterAxisSpacing", "constraints"].map Json.field

/-- The fields before the children. -/
def leadingFields (a : Attributes) : List (String × Json) :=
  [("id", DesignTokens.toJson a.id), ("name", DesignTokens.toJson a.name),
    ("type", DesignTokens.toJson a.kind)]

/-- The fields after the children. -/
def trailingFields (a : Attributes) : List (String × Json) :=
  Json.listField "fills" a.fills ++ Json.listField "strokes" a.strokes
    ++ Json.listField "effects" a.effects ++ Json.optionalField "style" a.style
    ++ Json.optionalField "characters" a.characters
    ++ Json.optionalField "layoutMode" a.layoutMode
    ++ Json.optionalField "paddingTop" a.paddingTop
    ++ Json.optionalField "paddingRight" a.paddingRight
    ++ Json.optionalField "paddingBottom" a.paddingBottom
    ++ Json.optionalField "paddingLeft" a.paddingLeft
    ++ Json.optionalField "itemSpacing" a.itemSpacing
    ++ Json.optionalField "counterAxisSpacing" a.counterAxisSpacing
    ++ Json.optionalField "constraints" a.constraints

mutual

/-- The document of a tree. -/
def toJson : Node → Json
  | ⟨own, children⟩ =>
    .obj (leadingFields own
      ++ (if children.isEmpty then [] else [("children", .arr (toJsons children))])
      ++ trailingFields own)

/-- The documents of several trees. -/
def toJsons : List Node → List Json
  | [] => []
  | n :: ns => toJson n :: toJsons ns

end

instance : ToJson Node := ⟨toJson⟩

/-- The attributes that a list of fields describes. -/
def attributes? (fields : List (String × Json)) : Option Attributes := do
  let id ← Json.orElse? fields "id" ""
  let name ← Json.required? fields "name"
  let kind ← Json.required? fields "type"
  let fills ← Json.orElse? fields "fills" []
  let strokes ← Json.orElse? fields "strokes" []
  let effects ← Json.orElse? fields "effects" []
  let style ← Json.optional? fields "style"
  let characters ← Json.optional? fields "characters"
  let layoutMode ← Json.optional? fields "layoutMode"
  let paddingTop ← Json.optional? fields "paddingTop"
  let paddingRight ← Json.optional? fields "paddingRight"
  let paddingBottom ← Json.optional? fields "paddingBottom"
  let paddingLeft ← Json.optional? fields "paddingLeft"
  let itemSpacing ← Json.optional? fields "itemSpacing"
  let counterAxisSpacing ← Json.optional? fields "counterAxisSpacing"
  let constraints ← Json.optional? fields "constraints"
  return {
    id, name, kind, fills, strokes, effects, style, characters, layoutMode, paddingTop,
    paddingRight, paddingBottom, paddingLeft, itemSpacing, counterAxisSpacing, constraints }

/-- Reads a tree.  A node without children may leave them out. -/
def ofJson? (j : Json) : Option Node :=
  match _whole : j.record? knownFields with
  | none => none
  | some fields => do
    let own ← attributes? fields
    let children ← match _found : Json.get? fields "children" with
      | none => some []
      | some (.arr items) => items.attach.mapM (fun ⟨item, _⟩ => ofJson? item)
      | some _ => none
    return ⟨own, children⟩
termination_by sizeOf j
decreasing_by
  have inside := Json.sizeOf_lt_of_get? _whole _found
  rename_i mem
  have smaller := List.sizeOf_lt_of_mem mem
  simp only [Json.arr.sizeOf_spec] at inside
  omega

instance : OfJson Node := ⟨ofJson?⟩

end Node

end DesignTokens
