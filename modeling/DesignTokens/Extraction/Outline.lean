import DesignTokens.Extraction.Options
import DesignTokens.Extraction.Segment
import DesignTokens.Token.Basic

/-!
# Outlines of documents

What an extraction is to find, said node by node.  The outline of a document
strings together the blocks of its nodes in document order, and each block
depends on a node, its place and the component that it is.

Key definitions:

* `Place` tells where a node stands, and `Node.placed` lists the nodes of a tree
  with their places.
* `Node.component` is the component that a node is.
* `Node.block` lists the tokens of a node, and `Node.outline` those of a tree.
-/

namespace DesignTokens

/-! ## Places -/

/-- Where a node stands: the names from just below the root, and the segments of
ids from the root. -/
structure Place where
  path : List String
  segments : List String
deriving Repr, DecidableEq

namespace Place

/-- The place of the root. -/
def root (name : String) : Place := ⟨[], [Segment.escape name]⟩

/-- The place of a child. -/
def child (p : Place) (name segment : String) : Place :=
  ⟨p.path ++ [name], p.segments ++ [segment]⟩

/-- The middle of the ids of a node. -/
def text (p : Place) : String := "/".intercalate p.segments

end Place

/-! ## What a node says about itself -/

namespace Attributes

/-- The text style of a text node. -/
def text? (a : Attributes) : Option Typography :=
  if a.kind = .text then
    match a.style with
    | some style => some (.ofStyle style)
    | none => some .standard
  else none

/-- The layout of a node that declares a mode. -/
def layout? (a : Attributes) : Option Layout :=
  match a.layoutMode with
  | some mode =>
    some ⟨mode, a.constraints.getD .topLeft, a.padding?, a.itemSpacing, a.counterAxisSpacing⟩
  | none => none

/-- The layout of a component.  It keeps its constraints even if it declares no
mode. -/
def componentLayout (a : Attributes) : Layout :=
  match a.layout? with
  | some layout => layout
  | none => ⟨.none, a.constraints.getD .topLeft, none, none, none⟩

end Attributes

namespace Node

mutual

/-- The first text style in a tree, parents before children. -/
def firstText? : Node → Option Typography
  | ⟨own, children⟩ =>
    match own.text? with
    | some text => some text
    | none => firstTextOf? children

/-- The first text style in several trees. -/
def firstTextOf? : List Node → Option Typography
  | [] => none
  | n :: ns =>
    match firstText? n with
    | some text => some text
    | none => firstTextOf? ns

end

/-- The component that a node with known inner components is. -/
def describe (a : Attributes) (text : Option Typography) (inner : List Component) : Component where
  id := a.id
  name := a.name
  key := a.id
  remote := false
  styles := {
    fills := a.fills
    strokes := a.strokes
    effects := a.effects
    layout := a.componentLayout
    typography :=
      match a.style with
      | some style => some (.ofStyle style)
      | none => text }
  children := inner

mutual

/-- The outermost components in a tree. -/
def components : Node → List Component
  | ⟨own, children⟩ =>
    if own.kind.isComponentLike then
      [describe own (firstTextOf? children) (componentsOf children)]
    else componentsOf children

/-- The outermost components in several trees. -/
def componentsOf : List Node → List Component
  | [] => []
  | n :: ns => components n ++ componentsOf ns

end

/-- The component that a node is, with everything in it. -/
def component (n : Node) : Component :=
  describe n.own (firstTextOf? n.children) (componentsOf n.children)

/-! ## Tokens -/

/-- The tokens of a list of paints. -/
def colorTokens (p : Place) (name : String) (role : PaintRole) (paints : List Paint) :
    List Token :=
  paints.zipIdx.filterMap (fun (paint, index) =>
    match paint with
    | ⟨.solid, some color, _, _⟩ => some {
        id := "color:" ++ p.text ++ ":" ++ Alternatives.name role ++ ":" ++ Decimal.wholeText index
        name
        path := p.path
        payload := .color ⟨color, role, UInt64.ofNat index⟩
        usage := none }
    | _ => none)

/-- The tokens of a list of effects. -/
def effectTokens (options : ExtractionOptions) (p : Place) (name : String)
    (effects : List Effect) : List Token :=
  effects.zipIdx.filterMap (fun (effect, index) =>
    if options.records effect.kind then some {
        id := "shadow:" ++ p.text ++ ":" ++ Decimal.wholeText index
        name
        path := p.path
        payload := .shadow (.ofEffect effect)
        usage := none }
    else none)

/-- A token of a node that has at most one of its kind. -/
def singleToken (kind : String) (p : Place) (name : String) (payload : Option Payload) :
    List Token :=
  match payload with
  | some payload => [⟨kind ++ ":" ++ p.text, name, p.path, payload, none⟩]
  | none => []

/-- The tokens of a node itself. -/
def block (options : ExtractionOptions) (p : Place) (n : Node) : List Token :=
  colorTokens p n.name .fill n.own.fills
    ++ colorTokens p n.name .stroke n.own.strokes
    ++ singleToken "typography" p n.name (n.own.text?.map .typography)
    ++ effectTokens options p n.name n.own.effects
    ++ singleToken "layout" p n.name (n.own.layout?.map .spacing)
    ++ singleToken "component" p n.name
        (if n.own.kind.isComponentLike then some (.component n.component) else none)

mutual

/-- The nodes of a tree with their places, parents before children. -/
def placed (p : Place) : Node → List (Place × Node)
  | ⟨own, children⟩ => (p, ⟨own, children⟩) :: placedAll p [] children

/-- The nodes of sibling trees with their places.  `seen` are the names of the
siblings before them. -/
def placedAll (p : Place) (seen : List String) : List Node → List (Place × Node)
  | [] => []
  | n :: ns =>
    placed (p.child n.name (Segment.numbered (seen.count n.name) n.name)) n
      ++ placedAll p (n.name :: seen) ns

end

/-- The tokens of a tree: the blocks of its nodes, one after the other. -/
def outline (options : ExtractionOptions) (n : Node) : List Token :=
  (n.placed (Place.root n.name)).flatMap (fun (p, m) => block options p m)

end Node

end DesignTokens
