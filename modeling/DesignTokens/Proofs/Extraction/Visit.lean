import DesignTokens.Extraction.Outline
import DesignTokens.Extraction.Walk

/-!
# What a visit adds to a walk

Visiting a tree changes the state of a walk in a way that depends on the tree
and its place alone: `Walk.absorb` adds what is found there, and
`Walk.visit_eq` says that a visit does nothing else.  In particular both stacks
are back where they were, earlier tokens stay as they are, and of the components
that were open before only the innermost gains children.
-/

namespace DesignTokens

namespace Walk

/-! ## Adding tokens -/

/-- Where the innermost node stands. -/
def here (w : Walk) : Place := ⟨w.path.reverse, w.segments.reverse⟩

/-- Adds finished tokens of one node. -/
def append (w : Walk) (ts : List Token) (flag : Bool) : Walk :=
  { w with
    tokens := w.tokens ++ ts.toArray
    fromComponent := w.fromComponent ++ (ts.map (fun _ => flag)).toArray }

@[simp] theorem append_nil (w : Walk) (flag : Bool) : w.append [] flag = w := by
  simp [append]

@[simp] theorem append_append (w : Walk) (ts us : List Token) (flag : Bool) :
    (w.append ts flag).append us flag = w.append (ts ++ us) flag := by
  simp [append, Array.append_assoc]

/-- A loop whose rounds add at most one token each adds the tokens of all rounds. -/
theorem foldl_eq_append {α : Type} {step : Walk → α → Walk} {token? : α → Option Token}
    {p : Place} {flag : Bool}
    (round : ∀ w x, w.here = p → step w x = w.append (token? x).toList flag)
    (xs : List α) (w : Walk) (standing : w.here = p) :
    xs.foldl step w = w.append (xs.filterMap token?) flag := by
  -- A round only appends, so the walk stands at the same place for the next one.
  induction xs generalizing w with
  | nil => simp
  | cons x xs ih =>
    rw [List.foldl_cons, round w x standing, ih (w.append _ flag) standing, append_append]
    cases found : token? x <;> simp [found]

/-! ## What a node says about itself -/

/-- Tells open components of what is inside them.  A text style is news for all
of them, and components are for the innermost. -/
def inform (inner : List Component) (text : Option Typography) :
    List OpenComponent → List OpenComponent
  | [] => []
  | frame :: frames =>
    { frame with children := frame.children ++ inner, firstText := frame.firstText.or text }
      :: frames.map (fun frame => { frame with firstText := frame.firstText.or text })

@[simp] theorem inform_nothing (frames : List OpenComponent) : inform [] none frames = frames := by
  cases frames <;> simp [inform]

theorem inform_inform (frames : List OpenComponent) (first second : List Component)
    (text other : Option Typography) :
    inform second other (inform first text frames) =
      inform (first ++ second) (text.or other) frames := by
  cases frames <;> simp [inform, Option.or_assoc]

/-- Tells the open components of a walk of what is inside them. -/
def learn (w : Walk) (inner : List Component) (text : Option Typography) : Walk :=
  { w with opened := inform inner text w.opened }

@[simp] theorem learn_here (w : Walk) (inner : List Component) (text : Option Typography) :
    (w.learn inner text).here = w.here := rfl

@[simp] theorem learn_nothing (w : Walk) : w.learn [] none = w := by
  simp [learn]

theorem append_learn (w : Walk) (inner : List Component) (text : Option Typography)
    (ts : List Token) (flag : Bool) :
    (w.learn inner text).append ts flag = (w.append ts flag).learn inner text := rfl

theorem noteText_eq (w : Walk) (text : Typography) :
    w.noteText text = w.learn [] (some text) := by
  unfold noteText learn
  cases w.opened <;> simp [inform, OpenComponent.note]

theorem handOver_map (c : Component) (text : Option Typography) (frames : List OpenComponent) :
    handOver c (frames.map (fun frame => { frame with firstText := frame.firstText.or text })) =
      inform [c] text frames := by
  cases frames <;> simp [inform, handOver]

theorem place_eq (w : Walk) : w.place = w.here.text := rfl

@[simp] theorem append_here (w : Walk) (ts : List Token) (flag : Bool) :
    (w.append ts flag).here = w.here := rfl

theorem push_eq_append (w : Walk) (a : Attributes) (id : String) (payload : Payload) :
    w.push a id payload =
      w.append [⟨id, a.name, w.here.path, payload, none⟩] a.kind.isComponentLike := by
  simp [push, append, here]

theorem pushColors_eq {w : Walk} {p : Place} (standing : w.here = p) (a : Attributes)
    (role : PaintRole) (paints : List Paint) :
    w.pushColors a p.text role paints =
      w.append (Node.colorTokens p a.name role paints) a.kind.isComponentLike := by
  refine foldl_eq_append (p := p) ?_ paints.zipIdx w standing
  rintro v ⟨⟨kind, color, opacity, visible⟩, index⟩ same
  cases kind <;> cases color <;> simp [Paint.solidColor?, push_eq_append, same]

theorem pushEffects_eq {w : Walk} {p : Place} (standing : w.here = p)
    (options : ExtractionOptions) (a : Attributes) :
    w.pushEffects options a p.text =
      w.append (Node.effectTokens options p a.name a.effects) a.kind.isComponentLike := by
  refine foldl_eq_append (p := p) ?_ a.effects.zipIdx w standing
  rintro v ⟨effect, index⟩ same
  by_cases recorded : options.records effect.kind <;> simp [recorded, push_eq_append, same]

theorem pushText_eq {w : Walk} {p : Place} (standing : w.here = p) (a : Attributes) :
    w.pushText a p.text =
      (w.append (Node.singleToken "typography" p a.name (a.text?.map .typography))
        a.kind.isComponentLike).learn [] a.text? := by
  subst standing
  unfold pushText Attributes.text?
  -- Only text nodes have a style, and its fixed parts are filled in as it is pushed.
  by_cases text : a.kind = .text
  · cases style : a.style <;>
      simp [text, style, NodeKind.isText, textOf, noteText_eq, push_eq_append, append_learn,
        Node.singleToken]
  · have other : a.kind.isText = false := by
      cases kind : a.kind <;> simp_all [NodeKind.isText]
    simp [text, other, Node.singleToken]

theorem layoutOf?_eq (a : Attributes) : layoutOf? a = a.layout? := by
  unfold layoutOf? Attributes.layout?
  cases a.layoutMode <;> rfl

theorem pushLayout_eq {w : Walk} {p : Place} (standing : w.here = p) (a : Attributes) :
    w.pushLayout a p.text =
      w.append (Node.singleToken "layout" p a.name (a.layout?.map .spacing))
        a.kind.isComponentLike := by
  unfold pushLayout
  rw [layoutOf?_eq]
  cases a.layout? <;> simp [Node.singleToken, push_eq_append, standing]

end Walk

/-- The tokens of a node apart from the component that it is. -/
def Node.styleTokens (options : ExtractionOptions) (p : Place) (a : Attributes) : List Token :=
  colorTokens p a.name .fill a.fills
    ++ colorTokens p a.name .stroke a.strokes
    ++ singleToken "typography" p a.name (a.text?.map .typography)
    ++ effectTokens options p a.name a.effects
    ++ singleToken "layout" p a.name (a.layout?.map .spacing)

theorem Node.block_of_like {a : Attributes} (like : a.kind.isComponentLike)
    (options : ExtractionOptions) (p : Place) (children : List Node) :
    block options p ⟨a, children⟩ =
      styleTokens options p a ++ singleToken "component" p a.name
        (some (.component (describe a (firstTextOf? children) (componentsOf children)))) := by
  simp only [block, like, if_true]
  rfl

theorem Node.block_of_not_like {a : Attributes} (other : ¬ a.kind.isComponentLike)
    (options : ExtractionOptions) (p : Place) (children : List Node) :
    block options p ⟨a, children⟩ = styleTokens options p a := by
  simp only [block, other]
  simp [singleToken, styleTokens, Node.name]

theorem Node.firstText?_mk (a : Attributes) (children : List Node) :
    firstText? ⟨a, children⟩ = a.text?.or (firstTextOf? children) := by
  rw [firstText?]
  cases a.text? <;> rfl

namespace Walk

theorem record_eq {w : Walk} {p : Place} (standing : w.here = p) (options : ExtractionOptions)
    (a : Attributes) :
    w.record options a =
      ((w.append (Node.styleTokens options p a) a.kind.isComponentLike).learn []
        a.text?).openComponent a p.text := by
  simp only [record, place_eq, standing, append_here, learn_here, pushColors_eq, pushText_eq,
    pushEffects_eq, pushLayout_eq, append_learn, append_append]
  rfl

/-! ## What is found in trees -/

/-- What is found in some trees: their nodes in document order, the outermost
components and the first text style. -/
structure Findings where
  nodes : List (Place × Node)
  components : List Component
  text : Option Typography

namespace Findings

/-- What is found in a tree. -/
def ofTree (p : Place) (n : Node) : Findings := ⟨n.placed p, n.components, n.firstText?⟩

/-- What is found in sibling trees. -/
def ofTrees (p : Place) (seen : List String) (ns : List Node) : Findings :=
  ⟨Node.placedAll p seen ns, Node.componentsOf ns, Node.firstTextOf? ns⟩

/-- The tokens of the nodes. -/
def tokens (options : ExtractionOptions) (f : Findings) : List Token :=
  f.nodes.flatMap (fun (p, n) => Node.block options p n)

/-- For each token, whether its node is like a component. -/
def flags (options : ExtractionOptions) (f : Findings) : List Bool :=
  f.nodes.flatMap (fun (p, n) =>
    (Node.block options p n).map (fun _ => n.own.kind.isComponentLike))

/-- Counts the names of the nodes. -/
def count (f : Findings) (counts : OrderedMap String Nat) : OrderedMap String Nat :=
  f.nodes.foldl (fun counts v => counts.alter v.2.name (fun n => n.getD 0 + 1)) counts

end Findings

/-- Adds what is found in some trees. -/
def absorb (w : Walk) (options : ExtractionOptions) (f : Findings) : Walk :=
  { w with
    tokens := w.tokens ++ (f.tokens options).toArray
    fromComponent := w.fromComponent ++ (f.flags options).toArray
    counts := f.count w.counts
    opened := inform f.components f.text w.opened }

@[simp] theorem absorb_here (w : Walk) (options : ExtractionOptions) (f : Findings) :
    (w.absorb options f).here = w.here := rfl

/-- What is found in one part and then in another is found in both together. -/
theorem absorb_absorb (w : Walk) (options : ExtractionOptions) (f g : Findings) :
    (w.absorb options f).absorb options g =
      w.absorb options ⟨f.nodes ++ g.nodes, f.components ++ g.components, f.text.or g.text⟩ := by
  simp [absorb, Findings.tokens, Findings.flags, Findings.count, inform_inform, Array.append_assoc]

/-! ## Components -/

theorem complete_outerComponent (a : Attributes) (position : Nat) (inner : List Component)
    (text : Option Typography) :
    OpenComponent.complete ⟨position, inner, text⟩ (outerComponent a) =
      Node.describe a text inner := by
  unfold OpenComponent.complete outerComponent Node.describe Attributes.componentLayout
  rw [layoutOf?_eq]
  cases a.style <;> cases a.layout? <;> rfl

section Inside

variable {w : Walk} {p : Place} {a : Attributes} (like : a.kind.isComponentLike)
  (options : ExtractionOptions) (f : Findings)
include like

/-- Behind all that is found inside a component it is still the innermost one that is open. -/
theorem opened_inside :
    ((w.openComponent a p.text).absorb options f).opened =
      ⟨w.tokens.size, f.components, f.text⟩ ::
        w.opened.map (fun frame => { frame with firstText := frame.firstText.or f.text }) := by
  simp [openComponent, like, absorb, inform, push]

/-- The token of the component still stands where it was recorded, since a visit only appends. -/
theorem recorded_inside (standing : w.here = p) :
    ((w.openComponent a p.text).absorb options f).tokens[w.tokens.size]? =
      some ⟨"component:" ++ p.text, a.name, p.path, .component (outerComponent a), none⟩ := by
  subst standing
  simp [openComponent, like, absorb, push, here]

/-- A component that is left is complete, whatever was found inside it. -/
theorem closeComponent_openComponent (standing : w.here = p) :
    ((w.openComponent a p.text).absorb options f).closeComponent =
      (w.append (Node.singleToken "component" p a.name
          (some (.component (Node.describe a f.text f.components)))) true).absorb options
        ⟨f.nodes, [Node.describe a f.text f.components], f.text⟩ := by
  have opened := opened_inside (w := w) (p := p) like options f
  have recorded := recorded_inside like options f standing
  subst standing
  unfold closeComponent
  simp only [opened, recorded, complete_outerComponent, handOver_map]
  simp [openComponent, like, absorb, push, append, here, Node.singleToken, Findings.tokens,
    Findings.flags, Findings.count]

end Inside

/-! ## Visits -/

theorem enter_child_here (w : Walk) (name segment : String) :
    (w.enter name segment false).here = w.here.child name segment := by
  simp [enter, here, Place.child]

theorem ofTrees_cons (p : Place) (seen : List String) (n : Node) (ns : List Node) :
    let first := Findings.ofTree (p.child n.name (Segment.numbered (seen.count n.name) n.name)) n
    let others := Findings.ofTrees p (n.name :: seen) ns
    Findings.ofTrees p seen (n :: ns) =
      ⟨first.nodes ++ others.nodes, first.components ++ others.components,
        first.text.or others.text⟩ := by
  simp only [Findings.ofTrees, Findings.ofTree, Node.placedAll, Node.componentsOf,
    Node.firstTextOf?]
  cases n.firstText? <;> rfl

/-- What is left to do between entering a node and leaving it adds what is found in its tree,
apart from its own name, which entering has counted. -/
theorem visit_inside (options : ExtractionOptions) (w : Walk) (a : Attributes)
    (children : List Node) :
    let inside := Findings.ofTrees w.here [] children
    let w' := (w.record options a).absorb options inside
    (if a.kind.isComponentLike then w'.closeComponent else w') =
      { w.absorb options (.ofTree w.here ⟨a, children⟩) with counts := inside.count w.counts } := by
  intro inside w'
  -- Only a component is closed on the way out, which adds the token it has kept open.
  by_cases like : a.kind.isComponentLike
  · simp only [w', like, if_true]
    rw [record_eq rfl, closeComponent_openComponent like options inside (by rfl)]
    simp [-List.toArray_replicate, absorb, append, learn, inform_inform, inside,
      Findings.ofTree, Findings.ofTrees, Findings.tokens, Findings.flags, Findings.count,
      Node.placed, Node.block_of_like, like, Node.components, Node.firstText?_mk]
  · simp only [w', like]
    rw [record_eq rfl]
    simp [-List.toArray_replicate, absorb, append, learn, inform_inform, inside,
      Findings.ofTree, Findings.ofTrees, Findings.tokens, Findings.flags, Findings.count,
      Node.placed, Node.block_of_not_like, like, Node.components, Node.firstText?_mk,
      openComponent]

theorem record_here (w : Walk) (options : ExtractionOptions) (a : Attributes) :
    (w.record options a).here = w.here := by
  rw [record_eq rfl, openComponent]
  split <;> rfl

mutual

/-- A visit adds what is found in the tree and changes nothing else. -/
theorem visit_eq (options : ExtractionOptions) (w : Walk) (segment : String) (isRoot : Bool) :
    ∀ n : Node, w.visit options segment isRoot n =
      w.absorb options (.ofTree (w.enter n.name segment isRoot).here n)
  | ⟨own, children⟩ => by
    rw [visit, visitAll_eq options _ [] children, record_here, visit_inside]
    -- Leaving drops what entering has pushed; the root had not pushed its name.
    cases isRoot <;> simp [leave, absorb, enter, Findings.count, Findings.ofTree,
      Findings.ofTrees, Node.placed, Node.name]

/-- Visits of siblings add what is found in all of them. -/
theorem visitAll_eq (options : ExtractionOptions) (w : Walk) (seen : List String) :
    ∀ ns : List Node, w.visitAll options seen ns = w.absorb options (.ofTrees w.here seen ns)
  | [] => by
    simp [visitAll, absorb, Findings.ofTrees, Findings.tokens, Findings.flags, Findings.count,
      Node.placedAll, Node.componentsOf, Node.firstTextOf?]
  | n :: ns => by
    -- The first tree leaves the walk where it was, so the others hang below the same place.
    rw [visitAll, visit_eq options w _ false n, visitAll_eq options _ (n.name :: seen) ns,
      absorb_here, absorb_absorb, enter_child_here, ofTrees_cons]

end

end Walk

end DesignTokens
