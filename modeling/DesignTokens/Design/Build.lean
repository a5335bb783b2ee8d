import DesignTokens.Design.Node

/-!
# Building documents

Documents can be put together by hand, one attribute after the other.

Key definitions: `Node.bare` and the functions that extend a node.
-/

namespace DesignTokens.Node

/-- A node of which only the name and the kind are known. -/
def bare (name : String) (kind : NodeKind) : Node := ⟨.bare name kind, []⟩

/-- Changes what a node says about itself. -/
def mapOwn (n : Node) (change : Attributes → Attributes) : Node := { n with own := change n.own }

/-- The node with an id. -/
def withId (n : Node) (id : String) : Node := n.mapOwn (fun a => { a with id := id })

/-- The node with more children behind those that it has. -/
def withChildren (n : Node) (ns : List Node) : Node := { n with children := n.children ++ ns }

/-- The node with one more solid fill. -/
def withFill (n : Node) (color : Color) : Node :=
  n.mapOwn (fun a => { a with fills := a.fills ++ [.solid color] })

/-- The node with one more solid stroke. -/
def withStroke (n : Node) (color : Color) : Node :=
  n.mapOwn (fun a => { a with strokes := a.strokes ++ [.solid color] })

/-- The node with one more effect. -/
def withEffect (n : Node) (effect : Effect) : Node :=
  n.mapOwn (fun a => { a with effects := a.effects ++ [effect] })

/-- The node with a text style. -/
def withStyle (n : Node) (style : TextStyle) : Node :=
  n.mapOwn (fun a => { a with style := some style })

/-- The node with a layout mode. -/
def withLayout (n : Node) (mode : LayoutMode) : Node :=
  n.mapOwn (fun a => { a with layoutMode := some mode })

/-- The node with a padding on all four sides. -/
def withPadding (n : Node) (p : Padding) : Node := n.mapOwn (·.withPadding p)

/-- The node with a distance between its items. -/
def withItemSpacing (n : Node) (x : Float) : Node :=
  n.mapOwn (fun a => { a with itemSpacing := some x })

end DesignTokens.Node
