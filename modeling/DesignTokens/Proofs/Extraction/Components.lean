import DesignTokens.Proofs.Design.Address
import DesignTokens.Proofs.Extraction.Reduction
import Mathlib.Data.List.Forall2

/-!
# Components of documents

The token of a component holds it as it is when the walk has left it: with the
components right inside it, each of them complete itself, and with a text style
even if only a text inside it has one.
-/

namespace DesignTokens

namespace Node

/-- Whether a node is a component or an instance of one. -/
def isComponentLike (n : Node) : Bool := n.own.kind.isComponentLike

/-- Whether there is a component or an instance of one at an address. -/
def IsComponentAt (n : Node) (a : List Nat) : Prop := ∃ m, n.at? a = some m ∧ m.isComponentLike

/-- Whether there is a component at an address inside a node and none in between. -/
def IsNextComponentAt (n : Node) (a : List Nat) : Prop :=
  a ≠ [] ∧ n.IsComponentAt a ∧ ∀ b, b ≠ [] → b <+: a → n.IsComponentAt b → b = a

/-- The first text inside a node, at whatever depth. -/
def firstTextInside? (n : Node) : Option Node := n.nodes.tail.find? (fun m => m.own.kind.isText)

end Node

/-- A component that describes a node, with the components right inside it. -/
structure Component.Describes (c : Component) (n : Node) (inner : List Component) : Prop where
  id : c.id = n.own.id
  name : c.name = n.name
  fills : c.styles.fills = n.own.fills
  strokes : c.styles.strokes = n.own.strokes
  effects : c.styles.effects = n.own.effects
  typography : c.styles.typography =
    match n.own.style with
    | some style => some (.ofStyle style)
    | none => n.firstTextInside?.map (fun m => Walk.textOf m.own)
  children : c.children = inner

/-! ## What a component holds -/

namespace Node

theorem text?_eq (a : Attributes) :
    a.text? = if a.kind.isText then some (Walk.textOf a) else none := by
  unfold Attributes.text? Walk.textOf
  cases a.kind <;> cases a.style <;> rfl

mutual

theorem firstText?_eq_find? : ∀ n : Node,
    n.firstText? = (n.nodes.find? (fun m => m.own.kind.isText)).map (fun m => Walk.textOf m.own)
  | ⟨own, children⟩ => by
    rw [firstText?_mk, nodes, List.find?_cons, text?_eq, firstTextOf?_eq_find? children]
    cases own.kind.isText <;> rfl

/-- The first text style in trees is that of the first text. -/
theorem firstTextOf?_eq_find? : ∀ ns : List Node,
    firstTextOf? ns =
      ((nodesOf ns).find? (fun m => m.own.kind.isText)).map (fun m => Walk.textOf m.own)
  | [] => rfl
  | n :: ns => by
    rw [firstTextOf?, nodesOf, List.find?_append, firstText?_eq_find? n,
      firstTextOf?_eq_find? ns]
    cases n.nodes.find? (fun m => m.own.kind.isText) <;> rfl

end

mutual

theorem components_eq_survey : ∀ n : Node,
    n.components =
      ((n.survey isComponentLike).filter (fun v => v.2.isComponentLike)).map
        (fun v => v.2.component)
  | ⟨own, children⟩ => by
    have inside := componentsOf_eq_survey 0 children
    rw [components, survey, List.filter_cons]
    by_cases like : own.kind.isComponentLike
    · have closed : isComponentLike ⟨own, children⟩ = true := like
      simp only [like, closed, if_true, List.filter_nil, List.map_cons, List.map_nil]
      rfl
    · have closed : isComponentLike ⟨own, children⟩ = false := by simpa [isComponentLike] using like
      simp only [like, closed, Bool.false_eq_true, if_false]
      exact inside

/-- The outermost components of trees are the ones that no other component is around. -/
theorem componentsOf_eq_survey (i : Nat) : ∀ ns : List Node,
    componentsOf ns =
      ((surveyFrom isComponentLike i ns).filter (fun v => v.2.isComponentLike)).map
        (fun v => v.2.component)
  | [] => rfl
  | n :: ns => by
    rw [componentsOf, surveyFrom, List.filter_append, List.map_append, components_eq_survey n,
      componentsOf_eq_survey (i + 1) ns, List.filter_map, List.map_map]
    rfl

end

/-- The addresses of the components right inside a node. -/
def nextComponents (n : Node) : List (List Nat × Node) :=
  (surveyFrom isComponentLike 0 n.children).filter (fun v => v.2.isComponentLike)

theorem mem_nextComponents {n m : Node} {a : List Nat} (member : (a, m) ∈ n.nextComponents) :
    n.at? a = some m ∧ m.isComponentLike := by
  rw [nextComponents, List.mem_filter, mem_surveyFrom_children] at member
  exact ⟨member.1.2.1, member.2⟩

theorem isNextComponentAt_iff {n : Node} {a : List Nat} :
    a ∈ n.nextComponents.map Prod.fst ↔ n.IsNextComponentAt a := by
  rw [List.mem_map]
  constructor
  · rintro ⟨⟨b, m⟩, member, rfl⟩
    rw [nextComponents, List.mem_filter, mem_surveyFrom_children] at member
    obtain ⟨⟨nonempty, here, open_⟩, like⟩ := member
    refine ⟨nonempty, ⟨m, here, like⟩, ?_⟩
    rintro c nonempty' start ⟨k, there, like'⟩
    by_contra differ
    rw [open_ c k nonempty' start differ there] at like'
    cases like'
  · rintro ⟨nonempty, ⟨m, here, like⟩, first⟩
    refine ⟨(a, m), ?_, rfl⟩
    rw [nextComponents, List.mem_filter, mem_surveyFrom_children]
    refine ⟨⟨nonempty, here, fun b k nonempty' start differ there => ?_⟩, like⟩
    by_contra closed
    exact differ (first b nonempty' start ⟨k, there, by simpa using closed⟩)

/-- The component that a node is describes it. -/
theorem describes_component (n : Node) :
    n.component.Describes n (n.nextComponents.map (fun v => v.2.component)) where
  id := rfl
  name := rfl
  fills := rfl
  strokes := rfl
  effects := rfl
  typography := by
    obtain ⟨own, children⟩ := n
    rw [firstTextInside?, nodes, List.tail_cons, ← firstTextOf?_eq_find?]
    rfl
  children := componentsOf_eq_survey 0 n.children

/-! ## Tokens of components -/

/-- The components of a tree with their addresses. -/
def surveyComponents (n : Node) : List (List Nat × Node) :=
  (n.survey (fun _ => false)).filter (fun v => v.2.isComponentLike)

theorem mem_surveyComponents {n m : Node} {a : List Nat} :
    (a, m) ∈ n.surveyComponents ↔ n.at? a = some m ∧ m.isComponentLike := by
  rw [surveyComponents, List.mem_filter, mem_survey]
  simp

mutual

theorem map_snd_survey : ∀ n : Node, (n.survey (fun _ => false)).map Prod.snd = n.nodes
  | ⟨own, children⟩ => by
    rw [survey, nodes, List.map_cons, if_neg Bool.false_ne_true, map_snd_surveyFrom 0 children]

theorem map_snd_surveyFrom (i : Nat) :
    ∀ ns : List Node, (surveyFrom (fun _ => false) i ns).map Prod.snd = nodesOf ns
  | [] => rfl
  | n :: ns => by
    rw [surveyFrom, nodesOf, List.map_append, List.map_map, ← map_snd_survey n,
      map_snd_surveyFrom (i + 1) ns]
    rfl

end

/-- The components have their addresses and their places in one order. -/
theorem map_snd_surveyComponents (p : Place) (n : Node) :
    n.surveyComponents.map Prod.snd =
      ((n.placed p).filter (fun v => v.2.isComponentLike)).map Prod.snd := by
  calc
    _ = n.nodes.filter isComponentLike := by
      rw [← map_snd_survey, List.filter_map]
      rfl
    _ = _ := by
      rw [← map_snd_placed p, List.filter_map]
      rfl

theorem filter_contents (options : ExtractionOptions) (n : Node) :
    (n.contents options).filter (fun content => content.2.kind = .component) =
      if n.isComponentLike then [(.component, .component n.component)] else [] := by
  have colors (role : PaintRole) (paints : List Paint) :
      (colorContents role paints).filter (fun content => content.2.kind = .component) = [] := by
    rw [List.filter_eq_nil_iff]
    intro content member
    obtain ⟨⟨paint, index⟩, _, made⟩ := List.mem_filterMap.mp member
    obtain ⟨color, _, rfl⟩ := Option.map_eq_some_iff.mp made
    simp [Payload.kind]
  have effects : (effectContents options n.own.effects).filter
      (fun content => content.2.kind = .component) = [] := by
    rw [List.filter_eq_nil_iff]
    intro content member
    obtain ⟨⟨effect, index⟩, _, made⟩ := List.mem_filterMap.mp member
    simp only [Option.ite_none_right_eq_some, Option.some.injEq] at made
    simp [← made.2, Payload.kind]
  rw [contents, isComponentLike]
  simp only [List.filter_append, colors, effects]
  cases n.own.text? <;> cases n.own.layout? <;> cases n.own.kind.isComponentLike <;>
    simp [Payload.kind]

/-- The tokens of components come from the components among the nodes in document order. -/
theorem map_withoutUsage_components (options : ExtractionOptions) (n : Node) :
    ((extract options n).filter (fun t => t.kind = .component)).map Token.withoutUsage =
      ((n.placed (Place.root n.name)).filter (fun v => v.2.isComponentLike)).map
        (fun v => Token.placed v.1 v.2.name (.component, .component v.2.component)) := by
  have block (v : Place × Node) : (v.2.block options v.1).filter (fun t => t.kind = .component) =
      if v.2.isComponentLike then
        [Token.placed v.1 v.2.name (.component, .component v.2.component)] else [] := by
    rw [block_eq_map, List.filter_map]
    refine (congrArg _ (filter_contents options v.2)).trans ?_
    split <;> rfl
  calc
    _ = ((extract options n).map Token.withoutUsage).filter (fun t => t.kind = .component) := by
      rw [List.filter_map]
      rfl
    _ = _ := by
      rw [map_extract (fun _ => rfl), map_withoutUsage_outline, outline, List.filter_flatMap,
        ← List.filterMap_eq_filter (p := fun v : Place × Node => v.2.isComponentLike),
        List.map_filterMap, List.filterMap_eq_flatMap_toList]
      refine List.flatMap_congr fun v _ => (block v).trans ?_
      by_cases like : v.2.isComponentLike <;> simp [Option.guard, like]

end Node

/-- Whether the component of a token has the layout of its node: that of the token
of the layout, or none but the constraints if the node declares no mode. -/
def Token.LaysOut (t : Token) (ts : List Token) (n : Node) (c : Component) : Prop :=
  match n.own.layoutMode with
  | some _ =>
    ∃ place, t.id = "component:" ++ place ∧
      ∃ l ∈ ts, l.id = "layout:" ++ place ∧ l.name = t.name ∧ l.path = t.path ∧
        l.payload = .spacing c.styles.layout
  | none =>
    c.styles.layout = { Layout.standard with constraints := n.own.constraints.getD .topLeft }

theorem laysOut_of_mem_placed {options : ExtractionOptions} {n : Node} {v : Place × Node}
    (member : v ∈ n.placed (Place.root n.name)) {t : Token}
    (same : t.withoutUsage =
      Token.placed v.1 v.2.name (.component, .component v.2.component)) :
    t.LaysOut (extract options n) v.2 v.2.component := by
  obtain ⟨p, m⟩ := v
  rw [Token.LaysOut]
  cases mode : m.own.layoutMode with
  | none =>
    show m.own.componentLayout = _
    rw [Attributes.componentLayout, Attributes.layout?, mode]
    rfl
  | some mode' =>
    obtain ⟨layout, declared⟩ : ∃ layout, m.own.layout? = some layout := by
      rw [Attributes.layout?, mode]
      exact ⟨_, rfl⟩
    have styles : m.component.styles.layout = layout := by
      show m.own.componentLayout = _
      rw [Attributes.componentLayout, declared]
    -- The block of the node has the token of its layout, and every block is in the extraction.
    have listed : Token.placed p m.name (.layout, .spacing layout) ∈ n.outline options := by
      refine List.mem_flatMap.mpr ⟨(p, m), member, ?_⟩
      show _ ∈ m.block options p
      rw [Node.block_eq_map]
      exact List.mem_map_of_mem (by simp [Node.contents, declared])
    rw [← Node.map_withoutUsage_outline, ← map_extract (fun _ => rfl)] at listed
    obtain ⟨l, inside, bare⟩ := List.mem_map.mp listed
    have name : l.name = t.name := (congrArg Token.name bare).trans (congrArg Token.name same).symm
    have path : l.path = t.path := (congrArg Token.path bare).trans (congrArg Token.path same).symm
    exact ⟨p.text, congrArg Token.id same, l, inside, congrArg Token.id bare, name, path,
      styles ▸ congrArg Token.payload bare⟩

/-- Each component of a document has its token, which comes in document order. -/
theorem forall₂_surveyComponents (options : ExtractionOptions) (n : Node) :
    List.Forall₂ (fun v t => t.name = v.2.name ∧ t.payload = .component v.2.component ∧
        t.LaysOut (extract options n) v.2 v.2.component)
      n.surveyComponents ((extract options n).filter (fun t => t.kind = .component)) := by
  have nodes := n.map_snd_surveyComponents (Place.root n.name)
  have tokens := n.map_withoutUsage_components options
  have length := congrArg List.length nodes
  have length' := congrArg List.length tokens
  rw [List.length_map, List.length_map] at length length'
  rw [List.forall₂_iff_get]
  refine ⟨length.trans length'.symm, fun i h h' => ?_⟩
  -- The three lists have the same node in the same place.
  have node := List.getElem_of_eq nodes (i := i) (by rwa [List.length_map])
  have token := List.getElem_of_eq tokens (i := i) (by rwa [List.length_map])
  rw [List.getElem_map, List.getElem_map] at node token
  have member := (List.mem_filter.mp (List.getElem_mem (length ▸ h))).1
  simp only [List.get_eq_getElem, node]
  exact ⟨congrArg Token.name token, congrArg Token.payload token,
    laysOut_of_mem_placed member token⟩

/-- The tokens of components in an extraction belong to the components of the document
in document order.  The component of each is complete: its inner components are
those of the tokens that belong to the next components inside its node, and what
else it holds is what its node says, its text style that of the first text inside
if the node has none itself. -/
theorem component_tokens_extract (options : ExtractionOptions) (n : Node) :
    ∃ (addresses : List (List Nat)) (component : List Nat → Component),
      addresses.Pairwise (· < ·) ∧
      (∀ a, a ∈ addresses ↔ n.IsComponentAt a) ∧
      List.Forall₂ (fun a t => ∃ m, n.at? a = some m ∧ t.name = m.name ∧
          t.payload = .component (component a) ∧
          t.LaysOut (extract options n) m (component a))
        addresses ((extract options n).filter (fun t => t.kind = .component)) ∧
      ∀ a m, n.at? a = some m → m.isComponentLike →
        ∃ inner : List (List Nat), inner.Pairwise (· < ·) ∧
          (∀ b, b ∈ inner ↔ m.IsNextComponentAt b) ∧
          (component a).Describes m (inner.map (fun b => component (a ++ b))) := by
  let component (a : List Nat) : Component := ((n.at? a).map Node.component).getD (.bare "")
  have component_eq {a : List Nat} {m : Node} (here : n.at? a = some m) :
      component a = m.component := by
    show ((n.at? a).map Node.component).getD _ = _
    rw [here]
    rfl
  refine ⟨n.surveyComponents.map Prod.fst, component, ?_, ?_, ?_, ?_⟩
  · exact List.pairwise_map.mpr ((Node.pairwise_survey n).filter _)
  · intro a
    rw [List.mem_map]
    constructor
    · rintro ⟨⟨b, m⟩, member, rfl⟩
      exact ⟨m, Node.mem_surveyComponents.mp member⟩
    · rintro ⟨m, component⟩
      exact ⟨(a, m), Node.mem_surveyComponents.mpr component, rfl⟩
  · rw [List.forall₂_map_left_iff]
    have found : ∀ v ∈ n.surveyComponents, n.at? v.1 = some v.2 :=
      fun v member => (Node.mem_surveyComponents.mp member).1
    refine ((List.forall₂_and_left _ _).mpr
      ⟨found, forall₂_surveyComponents options n⟩).imp ?_
    rintro v t ⟨here, name, payload, layout⟩
    rw [component_eq here]
    exact ⟨v.2, here, name, payload, layout⟩
  · intro a m here _
    refine ⟨m.nextComponents.map Prod.fst, ?_, fun b => Node.isNextComponentAt_iff, ?_⟩
    · exact List.pairwise_map.mpr ((Node.pairwise_surveyFrom 0 m.children).filter _)
    · rw [component_eq here, List.map_map]
      have inner : m.nextComponents.map ((fun b => component (a ++ b)) ∘ Prod.fst) =
          m.nextComponents.map (fun v => v.2.component) := by
        refine List.map_congr_left fun v member => component_eq ?_
        rw [Node.at?_append, here]
        exact (Node.mem_nextComponents member).1
      rw [inner]
      exact m.describes_component

end DesignTokens
