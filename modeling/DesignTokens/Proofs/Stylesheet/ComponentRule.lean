import DesignTokens.Proofs.Extraction.Components
import DesignTokens.Proofs.Extraction.Origin
import DesignTokens.Proofs.TokenSet.Buckets
import DesignTokens.Stylesheet.ComponentRule

/-!
# Rules of components agree with tokens

The rule of a component is made of the paints and effects that its token holds,
and the style tokens of its node are made of those of the node.  Both leave out
the same ones, so that the rule says what the tokens say.

Key definitions: `Token.colorOf?`, `Token.shadow?`, `Shade.boxShadow`,
`Component.AgreesWith`.
-/

namespace DesignTokens

/-- The color of a token if it is of a role. -/
def Token.colorOf? (role : PaintRole) (t : Token) : Option Color :=
  t.color?.bind (fun use => if use.role = role then some use.color else none)

/-- The effect of a token if it is a shadow that is dropped or inside. -/
def Token.shadow? (t : Token) : Option Shade :=
  t.shade?.filter (fun s => s.kind = .dropShadow ∨ s.kind = .innerShadow)

/-- The payload of a shadow as a stylesheet value with an exact color and without
spread. -/
def Shade.boxShadow (s : Shade) : String :=
  let offset := s.offset.getD .zero
  let color := (s.color.map Color.exactCss).getD standardColor
  inset s.kind ++ Css.pixels offset.x ++ " " ++ Css.pixels offset.y ++ " " ++ Css.pixels s.radius
    ++ " " ++ color

/-- Whether the rule of a component says of its colors and shadows what the tokens of its node
say. -/
structure Component.AgreesWith (c : Component) (own : List Token) : Prop where
  background : c.declarations.lookup "background-color" =
    (own.findSome? (Token.colorOf? .fill)).map Color.exactCss
  border : c.declarations.lookup "border-color" =
    (own.findSome? (Token.colorOf? .stroke)).map Color.exactCss
  shadows : c.declarations.lookup "box-shadow" =
    TokenSet.joined? ((own.filterMap Token.shadow?).map Shade.boxShadow)
  once : (c.declarations.map Prod.fst).Nodup

/-! ## Declarations of a rule -/

theorem lookup_singleton (key property value : String) :
    [(property, value)].lookup key = if key = property then some value else none := by
  by_cases same : key = property
  · simp [same]
  · simp [List.lookup_cons, beq_false_of_ne same, same]

theorem lookup_paintDeclaration (property key : String) (paints : List Paint) :
    (paintDeclaration property paints).lookup key =
      if key = property then (paints.findSome? Paint.solidColor?).map Color.exactCss else none := by
  rw [paintDeclaration]
  cases paints.findSome? Paint.solidColor? with
  | none => simp
  | some color => exact lookup_singleton key property color.exactCss

theorem lookup_shadowDeclaration (key : String) (effects : List Effect) :
    (shadowDeclaration effects).lookup key =
      if key = "box-shadow" then
        TokenSet.joined? ((effects.filter (fun e => e.kind.isShadow)).map Effect.boxShadow)
      else none := by
  rw [shadowDeclaration]
  cases effects.filter (fun e => e.kind.isShadow) with
  | nil => simp [TokenSet.joined?]
  | cons shadow shadows => exact lookup_singleton key "box-shadow" _

namespace Component

/-- The properties of a text style in a rule. -/
def textProperties : List String :=
  ["font-family", "font-size", "font-weight", "letter-spacing", "line-height", "text-decoration",
    "text-transform"]

/-- The declarations of the text style of a component. -/
def textDeclarations (c : Component) : List (String × String) :=
  match c.styles.typography with
  | some t => t.declarations
  | none => []

theorem declarations_eq (c : Component) :
    c.declarations = paintDeclaration "background-color" c.styles.fills
      ++ paintDeclaration "border-color" c.styles.strokes ++ c.textDeclarations
      ++ shadowDeclaration c.styles.effects := rfl

theorem sublist_textProperties (c : Component) :
    (c.textDeclarations.map Prod.fst).Sublist textProperties := by
  rw [textDeclarations]
  split
  · rename_i t _
    rw [Typography.declarations]
    split
    · exact .cons _ (.refl _)
    · exact .refl _
  · exact List.nil_sublist _

theorem lookup_textDeclarations (c : Component) {key : String} (other : key ∉ textProperties) :
    c.textDeclarations.lookup key = none := by
  refine List.lookup_eq_none_iff.mpr fun entry member => bne_iff_ne.mpr fun same => other ?_
  exact same ▸ c.sublist_textProperties.subset (List.mem_map_of_mem member)

/-- What a rule says of a property that text styles do not have. -/
theorem lookup_declarations (c : Component) {key : String} (other : key ∉ textProperties) :
    c.declarations.lookup key =
      if key = "background-color" then
        (c.styles.fills.findSome? Paint.solidColor?).map Color.exactCss
      else if key = "border-color" then
        (c.styles.strokes.findSome? Paint.solidColor?).map Color.exactCss
      else if key = "box-shadow" then
        TokenSet.joined? ((c.styles.effects.filter (fun e => e.kind.isShadow)).map
          Effect.boxShadow)
      else none := by
  simp only [declarations_eq, List.lookup_append, lookup_textDeclarations c other, Option.or_none,
    lookup_paintDeclaration, lookup_shadowDeclaration]
  -- No two of the three are of one property.
  split
  · rename_i background
    simp [background]
  · rw [Option.none_or]
    split
    · rename_i border
      simp [border]
    · rw [Option.none_or]

/-- A rule declares each property at most once. -/
theorem nodup_declarations (c : Component) : (c.declarations.map Prod.fst).Nodup := by
  have paint (property : String) (paints : List Paint) :
      ((paintDeclaration property paints).map Prod.fst).Sublist [property] := by
    rw [paintDeclaration]
    split
    · exact .refl _
    · exact List.nil_sublist _
  have shadows : ((shadowDeclaration c.styles.effects).map Prod.fst).Sublist ["box-shadow"] := by
    rw [shadowDeclaration]
    split
    · exact List.nil_sublist _
    · exact .refl _
  have names : (c.declarations.map Prod.fst).Sublist
      (["background-color"] ++ ["border-color"] ++ textProperties ++ ["box-shadow"]) := by
    simp only [declarations_eq, List.map_append]
    exact (((paint _ _).append (paint _ _)).append c.sublist_textProperties).append shadows
  exact names.nodup (by decide)

end Component

/-! ## Payloads from a node -/

namespace Node

variable {options : ExtractionOptions} {n : Node} {v : Place × Node}

theorem map_payload_tokensFrom (member : v ∈ n.placed (Place.root n.name)) :
    (n.tokensFrom options v.1).map Token.payload = v.2.payloads options := by
  have unmarked : Token.payload ∘ marked options n v.2 = Token.payload := by
    funext t
    rw [Function.comp_apply, marked]
    split <;> rfl
  rw [tokensFrom_eq options member, List.map_map, unmarked, block_eq_map, List.map_map,
    ← map_snd_contents]
  rfl

/-- What depends on payloads alone is found among the payloads of the node. -/
theorem filterMap_tokensFrom {β : Type} {find : Token → Option β}
    (blind : ∀ t, find t = find (.bare "" t.payload)) (member : v ∈ n.placed (Place.root n.name)) :
    (n.tokensFrom options v.1).filterMap find =
      (v.2.payloads options).filterMap (fun payload => find (.bare "" payload)) := by
  rw [← map_payload_tokensFrom member, List.filterMap_map]
  exact List.filterMap_congr fun t _ => blind t

/-- What is found among payloads is found kind by kind. -/
theorem filterMap_payloads {β : Type} (find : Payload → Option β) (m : Node) :
    (m.payloads options).filterMap find =
      m.colorUses.filterMap (fun use => find (.color use))
        ++ m.own.text?.toList.filterMap (fun text => find (.typography text))
        ++ (m.own.effects.filter (fun e => options.records e.kind)).filterMap
          (fun e => find (.shadow (.ofEffect e)))
        ++ m.own.layout?.toList.filterMap (fun layout => find (.spacing layout))
        ++ (if m.isComponentLike then (find (.component m.component)).toList else []) := by
  have last : (if m.own.kind.isComponentLike then [Payload.component m.component] else []).filterMap
      find = if m.isComponentLike then (find (.component m.component)).toList else [] := by
    rw [isComponentLike]
    split
    · cases found : find (.component m.component) <;> simp [found]
    · rfl
  simp only [payloads, List.filterMap_append, List.filterMap_map, last]
  rfl

/-! ## Colors -/

theorem map_color_usesOf (role : PaintRole) (paints : List Paint) :
    (usesOf role paints).map ColorUse.color = paints.filterMap Paint.solidColor? := by
  calc
    _ = paints.zipIdx.filterMap (Paint.solidColor? ∘ Prod.fst) := by
      rw [usesOf, List.map_filterMap]
      simp only [Option.map_map, Function.comp_def, Option.map_id']
    _ = _ := by
      rw [← List.filterMap_map, List.zipIdx_map_fst]

theorem role_of_mem_usesOf {role : PaintRole} {paints : List Paint} {use : ColorUse}
    (member : use ∈ usesOf role paints) : use.role = role := by
  obtain ⟨⟨paint, index⟩, _, made⟩ := List.mem_filterMap.mp member
  obtain ⟨color, _, rfl⟩ := Option.map_eq_some_iff.mp made
  rfl

/-- The colors of a role among those of a list of paints. -/
theorem filterMap_usesOf (role other : PaintRole) (paints : List Paint) :
    (usesOf other paints).filterMap (fun use => if use.role = role then some use.color else none) =
      if other = role then paints.filterMap Paint.solidColor? else [] := by
  split
  · rename_i same
    rw [← map_color_usesOf other, ← List.filterMap_eq_map]
    exact List.filterMap_congr fun use member => if_pos ((role_of_mem_usesOf member).trans same)
  · rename_i differ
    refine List.filterMap_eq_nil_iff.mpr fun use member => if_neg ?_
    rwa [role_of_mem_usesOf member]

/-- The paints of a node in a role. -/
def paintsOf (n : Node) : PaintRole → List Paint
  | .fill => n.own.fills
  | .stroke => n.own.strokes

/-- The colors that fill a node are those of its solid fills, and likewise for its strokes. -/
theorem filterMap_colorOf? (role : PaintRole) (member : v ∈ n.placed (Place.root n.name)) :
    (n.tokensFrom options v.1).filterMap (Token.colorOf? role) =
      (v.2.paintsOf role).filterMap Paint.solidColor? := by
  rw [filterMap_tokensFrom (fun _ => rfl) member, filterMap_payloads, colorUses,
    List.filterMap_append]
  simp only [Token.bare, Token.colorOf?, Token.color?, Option.bind_some, Option.bind_none,
    List.filterMap_none, filterMap_usesOf, Option.toList_none, ite_self, List.append_nil]
  cases role <;> simp [paintsOf]

/-! ## Shadows -/

/-- The shadows from a node are those of its effects, whatever else is recorded. -/
theorem filterMap_shadow? (member : v ∈ n.placed (Place.root n.name)) :
    (n.tokensFrom options v.1).filterMap Token.shadow? =
      (v.2.own.effects.filter (fun e => e.kind.isShadow)).map Shade.ofEffect := by
  -- An effect that is a shadow is recorded, and a blur that is recorded is no shadow.
  have each (e : Effect) : (if options.records e.kind then
      (Token.bare "" (.shadow (.ofEffect e))).shadow? else none) =
        if e.kind.isShadow then some (Shade.ofEffect e) else none := by
    obtain ⟨kind, radius, spread, offset, color, visible⟩ := e
    cases kind <;>
      simp [ExtractionOptions.records, EffectKind.isShadow, Token.shadow?, Token.shade?, Token.bare,
        Shade.ofEffect]
  have shadows (effects : List Effect) :
      (effects.filter (fun e => options.records e.kind)).filterMap
        (fun e => (Token.bare "" (.shadow (.ofEffect e))).shadow?) =
          (effects.filter (fun e => e.kind.isShadow)).map Shade.ofEffect := by
    rw [← List.filterMap_eq_map, List.filterMap_filter, List.filterMap_filter]
    exact List.filterMap_congr fun e _ => each e
  rw [filterMap_tokensFrom (fun _ => rfl) member, filterMap_payloads, shadows]
  simp only [Token.bare, Token.shadow?, Token.shade?, Option.filter_none, List.filterMap_none,
    Option.toList_none, ite_self, List.append_nil, List.nil_append]

theorem filterMap_component? (member : v ∈ n.placed (Place.root n.name))
    (like : v.2.isComponentLike) :
    (n.tokensFrom options v.1).filterMap Token.component? = [v.2.component] := by
  rw [filterMap_tokensFrom (fun _ => rfl) member, filterMap_payloads]
  simp only [Token.bare, Token.component?, List.filterMap_none, like, if_true, Option.toList_some,
    List.append_nil, List.nil_append]

/-- The first color of a role among the tokens from a node. -/
theorem findSome?_colorOf? (role : PaintRole) (member : v ∈ n.placed (Place.root n.name)) :
    (n.tokensFrom options v.1).findSome? (Token.colorOf? role) =
      (v.2.paintsOf role).findSome? Paint.solidColor? := by
  rw [← List.head?_filterMap, filterMap_colorOf? role member, List.head?_filterMap]

/-- The rule of the component that a node is agrees with the tokens from the node. -/
theorem agreesWith_tokensFrom (member : v ∈ n.placed (Place.root n.name)) :
    v.2.component.AgreesWith (n.tokensFrom options v.1) where
  background := by
    rw [Component.lookup_declarations _ (by decide), if_pos rfl, findSome?_colorOf? .fill member]
    rfl
  border := by
    rw [Component.lookup_declarations _ (by decide), if_neg (by decide), if_pos rfl,
      findSome?_colorOf? .stroke member]
    rfl
  shadows := by
    rw [Component.lookup_declarations _ (by decide), if_neg (by decide), if_neg (by decide),
      if_pos rfl, filterMap_shadow? member, List.map_map]
    rfl
  once := v.2.component.nodup_declarations

end Node

/-- In any document, a node that is a component or an instance of one has one component token, and
the rule of that component agrees with the color and shadow tokens from the same node. -/
theorem component_rule_agrees_with_tokens (options : ExtractionOptions) {n : Node}
    {v : Place × Node} (placed : v ∈ n.placed (Place.root n.name))
    (like : v.2.own.kind = .component ∨ v.2.own.kind = .componentInstance) :
    ∃ c, (n.tokensFrom options v.1).filterMap Token.component? = [c] ∧
      c.AgreesWith (n.tokensFrom options v.1) := by
  have like : v.2.isComponentLike := by
    rw [Node.isComponentLike]
    rcases like with kind | kind <;> rw [kind] <;> rfl
  exact ⟨v.2.component, Node.filterMap_component? placed like, Node.agreesWith_tokensFrom placed⟩

/-- An instance whose fills and effects are of several kinds. -/
def motleyBadge : Node :=
  let fills : List Paint := [⟨.gradientLinear, some ⟨0, 0, 1, 1⟩, none, none⟩, .solid ⟨1, 0, 0, 1⟩,
    .solid ⟨0, 1, 0, 1⟩]
  let effects : List Effect := [.shadow .innerShadow ⟨0, 1⟩ 2 ⟨0, 0, 0, 1⟩, .blur .layerBlur 4,
    .blur .dropShadow 3]
  ⟨{ Attributes.bare "Badge" .componentInstance with fills, effects }, []⟩

/-- The instance inside a frame, where the frame has a color of its own. -/
def framedBadge : Node :=
  ⟨{ Attributes.bare "Frame" .frame with strokes := [.solid ⟨1, 1, 1, 1⟩] }, [motleyBadge]⟩

theorem component_rule_agrees_with_tokens_framedBadge :
    let v : Place × Node := ((Place.root "Frame").child "Badge" "Badge", motleyBadge)
    v ∈ framedBadge.placed (Place.root framedBadge.name) ∧ v.2.own.kind = .componentInstance ∧
    ∃ c, (framedBadge.tokensFrom .deep v.1).filterMap Token.component? = [c] ∧
      c.declarations.lookup "background-color" = some (Color.exactCss ⟨1, 0, 0, 1⟩) ∧
      c.declarations.lookup "border-color" = none ∧
      c.declarations.lookup "box-shadow" = some (", ".intercalate
        [Shade.boxShadow ⟨.innerShadow, 2, none, some ⟨0, 1⟩, some ⟨0, 0, 0, 1⟩⟩,
          Shade.boxShadow ⟨.dropShadow, 3, none, none, none⟩]) := by
  intro v
  have placed : v ∈ framedBadge.placed (Place.root framedBadge.name) := by
    have segment : Segment.numbered 0 "Badge" = "Badge" := by decide +kernel
    refine .tail _ ?_
    show v ∈ [((Place.root "Frame").child "Badge" (Segment.numbered 0 "Badge"), motleyBadge)]
    rw [segment]
    exact List.mem_singleton_self v
  obtain ⟨c, single, agrees⟩ := component_rule_agrees_with_tokens .deep placed (.inr rfl)
  refine ⟨placed, rfl, c, single, ?_, ?_, ?_⟩
  · rw [agrees.background, Node.findSome?_colorOf? .fill placed]
    rfl
  · rw [agrees.border, Node.findSome?_colorOf? .stroke placed]
    rfl
  · rw [agrees.shadows, Node.filterMap_shadow? placed]
    rfl

end DesignTokens
