import DesignTokens.Extraction.Outline

/-!
# What nodes contribute

The block of a node depends on its place only through ids and paths.  What the
node itself contributes is a list of payloads, each with a mark that tells it
apart from the other ones of the node.
-/

namespace DesignTokens

/-- What tells a token apart from the other tokens of its node. -/
inductive Mark where
  | color (role : PaintRole) (index : Nat)
  | typography
  | shadow (index : Nat)
  | layout
  | component
deriving DecidableEq

/-- The id of a token at a place. -/
def Mark.id (p : Place) : Mark → String
  | .color role index =>
    "color:" ++ p.text ++ ":" ++ Alternatives.name role ++ ":" ++ Decimal.wholeText index
  | .typography => "typography:" ++ p.text
  | .shadow index => "shadow:" ++ p.text ++ ":" ++ Decimal.wholeText index
  | .layout => "layout:" ++ p.text
  | .component => "component:" ++ p.text

/-- The token of a node at a place. -/
def Token.placed (p : Place) (name : String) (content : Mark × Payload) : Token :=
  ⟨content.1.id p, name, p.path, content.2, none⟩

namespace Node

/-- The solid paints of a list. -/
def colorContents (role : PaintRole) (paints : List Paint) : List (Mark × Payload) :=
  paints.zipIdx.filterMap (fun (paint, index) =>
    paint.solidColor?.map (fun color =>
      (.color role index, .color ⟨color, role, UInt64.ofNat index⟩)))

/-- The effects of a list that become tokens. -/
def effectContents (options : ExtractionOptions) (effects : List Effect) :
    List (Mark × Payload) :=
  effects.zipIdx.filterMap (fun (effect, index) =>
    if options.records effect.kind then some (.shadow index, .shadow (.ofEffect effect)) else none)

/-- What a node contributes to an extraction. -/
def contents (options : ExtractionOptions) (n : Node) : List (Mark × Payload) :=
  colorContents .fill n.own.fills
    ++ colorContents .stroke n.own.strokes
    ++ (n.own.text?.map (fun text => (Mark.typography, .typography text))).toList
    ++ effectContents options n.own.effects
    ++ (n.own.layout?.map (fun layout => (Mark.layout, .spacing layout))).toList
    ++ (if n.own.kind.isComponentLike then [(.component, .component n.component)] else [])

theorem colorTokens_eq (p : Place) (name : String) (role : PaintRole) (paints : List Paint) :
    colorTokens p name role paints = (colorContents role paints).map (Token.placed p name) := by
  rw [colorTokens, colorContents, List.map_filterMap]
  congr 1
  funext ⟨⟨kind, color, opacity, visible⟩, index⟩
  cases kind <;> cases color <;> rfl

theorem effectTokens_eq (options : ExtractionOptions) (p : Place) (name : String)
    (effects : List Effect) :
    effectTokens options p name effects =
      (effectContents options effects).map (Token.placed p name) := by
  rw [effectTokens, effectContents, List.map_filterMap]
  congr 1
  funext ⟨effect, index⟩
  by_cases recorded : options.records effect.kind <;>
    simp [recorded, Token.placed, Mark.id]

/-- The block of a node is what it contributes, put in its place. -/
theorem block_eq_map (options : ExtractionOptions) (p : Place) (n : Node) :
    block options p n = (n.contents options).map (Token.placed p n.name) := by
  -- Parts of at most one token each.
  have text : singleToken "typography" p n.name (n.own.text?.map .typography) =
      (n.own.text?.map (fun text => (Mark.typography, Payload.typography text))).toList.map
        (Token.placed p n.name) := by
    cases n.own.text? <;> rfl
  have layout : singleToken "layout" p n.name (n.own.layout?.map .spacing) =
      (n.own.layout?.map (fun layout => (Mark.layout, Payload.spacing layout))).toList.map
        (Token.placed p n.name) := by
    cases n.own.layout? <;> rfl
  rw [block, contents, colorTokens_eq, colorTokens_eq, effectTokens_eq, text, layout]
  simp only [List.map_append]
  congr 1
  split <;> rfl

theorem exists_of_mem_block {options : ExtractionOptions} {p : Place} {n : Node} {t : Token}
    (member : t ∈ block options p n) :
    ∃ content ∈ n.contents options, Token.placed p n.name content = t := by
  rw [block_eq_map] at member
  exact List.mem_map.mp member

end Node

end DesignTokens
