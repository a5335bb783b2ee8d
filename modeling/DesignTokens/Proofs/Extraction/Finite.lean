import DesignTokens.Proofs.Design.Finite
import DesignTokens.Proofs.Extraction.Components
import DesignTokens.Proofs.Token.Json
import DesignTokens.Proofs.TokenSet.Json

/-!
# Numbers of extractions

An extraction takes its numbers from the document or fills in fixed ones, so that
its tokens have finite numbers if the document has.
-/

namespace DesignTokens

/-! ## What a node says about itself -/

theorem isFinite_getD {o : Option Float} (finite : IsFinite o) {x : Float} (standard : IsFinite x) :
    IsFinite (o.getD x) := by
  cases o with
  | none => exact standard
  | some y => exact finite y rfl

namespace Typography

theorem isFinite_ofStyle {s : TextStyle} (finite : IsFinite s) : IsFinite (ofStyle s) := by
  obtain ⟨weight, size, spacing, height⟩ := finite
  obtain ⟨weight', size', spacing', height'⟩ := isFinite_standard
  refine ⟨isFinite_getD weight weight', isFinite_getD size size',
    isFinite_getD spacing spacing', ?_⟩
  show IsFinite (s.lineHeight.getD standard.lineHeight)
  cases given : s.lineHeight with
  | none => exact height'
  | some h => exact height h given

end Typography

namespace Attributes

variable {a : Attributes}

theorem isFinite_text? (finite : IsFinite a) : IsFinite a.text? := by
  intro text member
  rw [text?] at member
  split at member
  · split at member
    · rename_i style given
      cases member
      exact Typography.isFinite_ofStyle (finite.2.2.2.1 style given)
    · cases member
      exact Typography.isFinite_standard
  · cases member

theorem isFinite_padding? (finite : IsFinite a) : IsFinite a.padding? := by
  obtain ⟨-, -, -, -, top, right, bottom, left, -, -⟩ := finite
  have zero : IsFinite (0.0 : Float) := by decide
  intro padding member
  rw [padding?] at member
  split at member
  · cases member
  · cases member
    exact ⟨isFinite_getD top zero, isFinite_getD right zero, isFinite_getD bottom zero,
      isFinite_getD left zero⟩

theorem isFinite_layout? (finite : IsFinite a) : IsFinite a.layout? := by
  intro layout member
  rw [layout?] at member
  split at member
  · cases member
    exact ⟨isFinite_padding? finite, finite.2.2.2.2.2.2.2.2.1, finite.2.2.2.2.2.2.2.2.2⟩
  · cases member

theorem isFinite_componentLayout (finite : IsFinite a) : IsFinite a.componentLayout := by
  rw [componentLayout]
  split
  · rename_i layout given
    exact isFinite_layout? finite layout given
  -- Only the constraints are not those of the standard layout, and they have no numbers.
  · exact Layout.isFinite_standard

end Attributes

/-! ## Components -/

namespace Node

mutual

theorem isFinite_of_mem_nodes : ∀ {n : Node}, n.IsFinite → ∀ m ∈ n.nodes, m.IsFinite
  | ⟨_, _⟩, ⟨own, children⟩ => List.forall_mem_cons.mpr
    ⟨⟨own, children⟩, isFinite_of_mem_nodesOf children⟩

theorem isFinite_of_mem_nodesOf : ∀ {ns : List Node}, AreFinite ns → ∀ m ∈ nodesOf ns, m.IsFinite
  | [], _ => List.forall_mem_nil _
  | _ :: _, ⟨first, rest⟩ => List.forall_mem_append.mpr
    ⟨isFinite_of_mem_nodes first, isFinite_of_mem_nodesOf rest⟩

end

mutual

theorem isFinite_firstText? : ∀ {n : Node}, n.IsFinite → DesignTokens.IsFinite n.firstText?
  | ⟨own, children⟩, ⟨here, inside⟩ => by
    rw [firstText?]
    split
    · rename_i text given
      exact given ▸ Attributes.isFinite_text? here
    · exact isFinite_firstTextOf? inside

theorem isFinite_firstTextOf? : ∀ {ns : List Node}, AreFinite ns →
    DesignTokens.IsFinite (firstTextOf? ns)
  | [], _ => nofun
  | n :: ns, ⟨first, rest⟩ => by
    rw [firstTextOf?]
    split
    · rename_i text given
      exact given ▸ isFinite_firstText? first
    · exact isFinite_firstTextOf? rest

end

theorem isFinite_describe {a : Attributes} {text : Option Typography} {inner : List Component}
    (own : DesignTokens.IsFinite a) (below : DesignTokens.IsFinite text)
    (parts : DesignTokens.IsFinite inner) : (describe a text inner).IsFinite := by
  have layout := Attributes.isFinite_componentLayout own
  obtain ⟨fills, strokes, effects, style, -⟩ := own
  refine ⟨⟨fills, strokes, effects, layout, ?_⟩, Component.areFinite_iff.mpr parts⟩
  intro typography member
  simp only at member
  split at member
  · rename_i style' given
    cases member
    exact Typography.isFinite_ofStyle (style style' given)
  · exact below typography member

mutual

theorem isFinite_components : ∀ {n : Node}, n.IsFinite → DesignTokens.IsFinite n.components
  | ⟨own, children⟩, ⟨here, inside⟩ => by
    have parts := isFinite_componentsOf inside
    rw [components]
    split
    · exact List.forall_mem_singleton.mpr
        (isFinite_describe here (isFinite_firstTextOf? inside) parts)
    · exact parts

theorem isFinite_componentsOf : ∀ {ns : List Node}, AreFinite ns →
    DesignTokens.IsFinite (componentsOf ns)
  | [], _ => List.forall_mem_nil _
  | _ :: _, ⟨first, rest⟩ => List.forall_mem_append.mpr
    ⟨isFinite_components first, isFinite_componentsOf rest⟩

end

theorem isFinite_component {n : Node} (finite : n.IsFinite) : n.component.IsFinite := by
  obtain ⟨own, children⟩ := isFinite_iff.mp finite
  exact isFinite_describe own (isFinite_firstTextOf? children) (isFinite_componentsOf children)

/-! ## Tokens -/

theorem isFinite_usesOf {paints : List Paint} (finite : DesignTokens.IsFinite paints)
    (role : PaintRole) : ∀ use ∈ usesOf role paints, DesignTokens.IsFinite use := by
  intro use member
  obtain ⟨⟨paint, index⟩, here, made⟩ := List.mem_filterMap.mp member
  obtain ⟨color, solid, rfl⟩ := Option.map_eq_some_iff.mp made
  have given := List.mem_map_of_mem (f := Prod.fst) here
  rw [List.zipIdx_map_fst] at given
  rw [Paint.solidColor?] at solid
  split at solid
  · exact (finite paint given).1 color solid
  · cases solid

/-- What a node contributes to an extraction has finite numbers. -/
theorem isFinite_payloads {n : Node} (finite : n.IsFinite) (options : ExtractionOptions) :
    ∀ payload ∈ n.payloads options, DesignTokens.IsFinite payload := by
  have own := (isFinite_iff.mp finite).1
  have text := Attributes.isFinite_text? own
  have layout := Attributes.isFinite_layout? own
  obtain ⟨fills, strokes, effects, -⟩ := own
  simp only [payloads, colorUses, List.forall_mem_append, List.forall_mem_map,
    Option.mem_toList]
  refine ⟨⟨⟨⟨⟨?_, ?_⟩, ?_⟩, ?_⟩, ?_⟩, ?_⟩
  · exact isFinite_usesOf fills .fill
  · exact isFinite_usesOf strokes .stroke
  · exact text
  · intro effect member
    obtain ⟨radius, spread, offset, color⟩ := effects effect (List.mem_filter.mp member).1
    exact ⟨radius, spread, offset, color⟩
  · exact layout
  · split
    · exact List.forall_mem_singleton.mpr (isFinite_component finite)
    · exact List.forall_mem_nil _

end Node

/-- The tokens of a document with finite numbers have finite numbers. -/
theorem isFinite_extract {n : Node} (finite : n.IsFinite) (options : ExtractionOptions) :
    IsFinite (extract options n) := by
  intro t member
  -- Usage holds no doubles, so that the payload may be looked up in the outline.
  have image : t.payload ∈ (extract options n).map Token.payload := List.mem_map_of_mem member
  rw [map_extract fun _ => rfl] at image
  obtain ⟨other, here, same⟩ := List.mem_map.mp image
  obtain ⟨⟨p, m⟩, place, block⟩ := List.mem_flatMap.mp here
  obtain ⟨content, made, rfl⟩ := Node.exists_of_mem_block block
  have node : m ∈ n.nodes := by
    rw [← Node.map_snd_placed (Place.root n.name)]
    exact List.mem_map_of_mem (f := Prod.snd) place
  have payload : content.2 ∈ m.payloads options := by
    rw [← Node.map_snd_contents]
    exact List.mem_map_of_mem made
  show IsFinite t.payload
  rw [← same]
  exact Node.isFinite_payloads (Node.isFinite_of_mem_nodes finite m node) options content.2 payload

end DesignTokens
