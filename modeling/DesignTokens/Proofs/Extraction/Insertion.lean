import DesignTokens.Proofs.Design.Address
import DesignTokens.Proofs.Extraction.Outline
import Mathlib.Data.List.Forall2

/-!
# Tokens of a document that grows

A tree is put into a document, at a place where no sibling has its name.  All
nodes of the document keep their places, so that their tokens keep their ids and
paths.  Only the components around the new tree may hold something new.
-/

namespace DesignTokens

namespace Node

/-! ## Trees put into trees -/

/-- A tree with the tree `s` put between the first `k` children of the node at an
address and the others. -/
def insertAt (s : Node) (k : Nat) : List Nat → Node → Node
  | [], n => { n with children := n.children.take k ++ s :: n.children.drop k }
  | i :: rest, n => { n with children := n.children.modify i (insertAt s k rest) }

theorem own_insertAt (s : Node) (k : Nat) (a : List Nat) (n : Node) :
    (insertAt s k a n).own = n.own := by
  cases a <;> rfl

theorem name_insertAt (s : Node) (k : Nat) (a : List Nat) (n : Node) :
    (insertAt s k a n).name = n.name := congrArg Attributes.name (own_insertAt s k a n)

/-! ## Places in a tree -/

/-- The place of the child number `i` of a node, if `child` is the child. -/
def placeOfChild (p : Place) (n : Node) (i : Nat) (child : Node) : Place :=
  let earlier := ((n.children.take i).map name).count child.name
  p.child child.name (Segment.numbered earlier child.name)

/-- The place of the node at an address in a tree that stands at the place `p`. -/
def placeAt? (p : Place) : Node → List Nat → Option Place
  | _, [] => some p
  | n, i :: rest =>
    n.children[i]?.bind (fun child => placeAt? (n.placeOfChild p i child) child rest)

/-- The places of siblings depend only on which of their names were seen before, and how often. -/
theorem placedAll_congr (p : Place) {seen seen' : List String} {ns : List Node}
    (same : ∀ n ∈ ns, seen.count n.name = seen'.count n.name) :
    placedAll p seen ns = placedAll p seen' ns := by
  induction ns generalizing seen seen' with
  | nil => rfl
  | cons n ns ih =>
    obtain ⟨first, others⟩ := List.forall_mem_cons.mp same
    have later : ∀ m ∈ ns, (n.name :: seen).count m.name = (n.name :: seen').count m.name := by
      intro m member
      rw [List.count_cons, List.count_cons, others m member]
    rw [placedAll, placedAll, first, ih later]

theorem placedAll_append (p : Place) (seen : List String) (ns ms : List Node) :
    placedAll p seen (ns ++ ms) =
      placedAll p seen ns ++ placedAll p ((ns.map name).reverse ++ seen) ms := by
  induction ns generalizing seen with
  | nil => rfl
  | cons n ns ih =>
    rw [List.cons_append, placedAll, placedAll, ih, List.append_assoc, List.map_cons,
      List.reverse_cons, List.append_assoc]
    rfl

/-- The nodes of siblings, told apart from those of one among them. -/
theorem placedAll_around (p : Place) (before : List Node) (n : Node) (after : List Node) :
    placedAll p [] (before ++ n :: after) =
      placedAll p [] before
        ++ n.placed (p.child n.name (Segment.numbered ((before.map name).count n.name) n.name))
        ++ placedAll p (n.name :: (before.map name).reverse) after := by
  rw [placedAll_append, List.append_nil, placedAll, List.count_reverse, List.append_assoc]

/-- Siblings around a new tree of another name stand where they stood without it. -/
theorem placedAll_insert (p : Place) {before after : List Node} {s : Node}
    (unused : ∀ c ∈ before ++ after, c.name ≠ s.name) :
    placedAll p [] (before ++ s :: after) =
        placedAll p [] before ++ s.placed (p.child s.name (Segment.escape s.name))
          ++ placedAll p (before.map name).reverse after ∧
      placedAll p [] (before ++ after) =
        placedAll p [] before ++ placedAll p (before.map name).reverse after := by
  have first : (before.map name).count s.name = 0 := by
    rw [List.count_eq_zero]
    intro member
    obtain ⟨c, inside, same⟩ := List.mem_map.mp member
    exact unused c (List.mem_append_left after inside) same
  have later : placedAll p (s.name :: (before.map name).reverse) after =
      placedAll p (before.map name).reverse after :=
    placedAll_congr p fun c inside => List.count_cons_of_ne
      (unused c (List.mem_append_right before inside)).symm
  constructor
  · rw [placedAll_around, first, Segment.numbered, if_pos rfl, later]
  · rw [placedAll_append, List.append_nil]

/-- Whether a node stands at a place on the way to an address, the address included. -/
def IsOnWay (n : Node) (p : Place) (a : List Nat) (v : Place × Node) : Prop :=
  ∃ b, b <+: a ∧ n.placeAt? p b = some v.1 ∧ n.at? b = some v.2

/-- A node that is still at its place.  On the way to an address it may have other nodes inside. -/
def StillThere (p : Place) (n : Node) (a : List Nat) (v w : Place × Node) : Prop :=
  w = v ∨ n.IsOnWay p a v ∧ w.1 = v.1 ∧ w.2.own = v.2.own

theorem forall₂_stillThere_self (p : Place) (n : Node) (a : List Nat) (vs : List (Place × Node)) :
    List.Forall₂ (StillThere p n a) vs vs :=
  List.forall₂_same.mpr fun _ _ => .inl rfl

theorem StillThere.of_child {p : Place} {n child : Node} {i : Nat} {a : List Nat}
    (found : n.children[i]? = some child) {v w : Place × Node}
    (there : StillThere (n.placeOfChild p i child) child a v w) : StillThere p n (i :: a) v w := by
  rcases there with same | ⟨⟨b, start, place, node⟩, rest⟩
  · exact .inl same
  · refine .inr ⟨⟨i :: b, List.cons_prefix_cons.mpr ⟨rfl, start⟩, ?_, ?_⟩, rest⟩
    · rw [placeAt?, found]
      exact place
    · rw [at?_cons, found]
      exact node

theorem stillThere_root (p : Place) (n m : Node) (a : List Nat) (own : m.own = n.own) :
    StillThere p n a (p, n) (p, m) :=
  .inr ⟨⟨[], List.nil_prefix, rfl, rfl⟩, rfl, own⟩

theorem placed_eq (p : Place) (n : Node) : n.placed p = (p, n) :: placedAll p [] n.children := by
  cases n
  rw [placed]

/-- The nodes inside a tree around those of one child, which may change but for its name. -/
theorem placedAll_modify {n child : Node} {i : Nat} (found : n.children[i]? = some child)
    (p : Place) :
    ∃ earlier later, ∀ f : Node → Node, (f child).name = child.name →
      placedAll p [] (n.children.modify i f) =
        earlier ++ (f child).placed (n.placeOfChild p i child) ++ later := by
  obtain ⟨bound, rfl⟩ := List.getElem?_eq_some_iff.mp found
  refine ⟨placedAll p [] (n.children.take i),
    placedAll p (n.children[i].name :: ((n.children.take i).map name).reverse)
      (n.children.drop (i + 1)), fun f same => ?_⟩
  rw [List.modify_eq_take_cons_drop bound, placedAll_around, same]
  rfl

/-- Where nodes stand in a tree that another one was put into: all that were there stand where they
stood, and those of the new tree come in one piece. -/
theorem placed_insertAt (k : Nat) {s m : Node} (unused : ∀ c ∈ m.children, c.name ≠ s.name)
    {a : List Nat} {n : Node} (here : n.at? a = some m) (p : Place) :
    ∃ q before after, n.placeAt? p a = some q ∧
      (insertAt s k a n).placed p =
        before ++ s.placed (q.child s.name (Segment.escape s.name)) ++ after ∧
      List.Forall₂ (StillThere p n a) (n.placed p) (before ++ after) := by
  induction a generalizing n p with
  | nil =>
    obtain rfl := Option.some.inj here
    rw [← List.take_append_drop k n.children] at unused
    obtain ⟨grown, plain⟩ := placedAll_insert p unused
    refine ⟨p, (p, insertAt s k [] n) :: placedAll p [] (n.children.take k),
      placedAll p ((n.children.take k).map name).reverse (n.children.drop k), rfl, ?_, ?_⟩
    · rw [placed_eq]
      exact congrArg _ grown
    · rw [placed_eq, List.cons_append, ← plain, List.take_append_drop]
      exact .cons (stillThere_root p n _ [] (own_insertAt s k [] n)) (forall₂_stillThere_self ..)
  | cons i a ih =>
    obtain ⟨child, found, here⟩ := Option.bind_eq_some_iff.mp here
    obtain ⟨q, before, after, place, grown, kept⟩ := ih here (n.placeOfChild p i child)
    obtain ⟨earlier, later, around⟩ := placedAll_modify found p
    have plain : n.placed p =
        (p, n) :: (earlier ++ child.placed (n.placeOfChild p i child) ++ later) := by
      rw [placed_eq, ← List.modify_id i n.children, around id rfl]
      rfl
    have grown : (insertAt s k (i :: a) n).placed p = (p, insertAt s k (i :: a) n) ::
        (earlier ++ (before ++ s.placed (q.child s.name (Segment.escape s.name)) ++ after)
          ++ later) := by
      rw [← grown, placed_eq]
      exact congrArg _ (around (insertAt s k a) (name_insertAt s k a child))
    have kept : List.Forall₂ (StillThere p n (i :: a))
        (earlier ++ child.placed (n.placeOfChild p i child) ++ later)
        (earlier ++ (before ++ after) ++ later) :=
      List.rel_append (List.rel_append (forall₂_stillThere_self ..)
        (kept.imp fun _ _ there => there.of_child found)) (forall₂_stillThere_self ..)
    refine ⟨q, (p, insertAt s k (i :: a) n) :: (earlier ++ before), after ++ later, ?_, ?_, ?_⟩
    · rw [placeAt?, found]
      exact place
    · rw [grown]
      simp only [List.append_assoc, List.cons_append]
    · have root := stillThere_root p n _ (i :: a) (own_insertAt s k (i :: a) n)
      rw [plain]
      simp only [List.append_assoc, List.cons_append] at kept ⊢
      exact .cons root kept

end Node

/-! ## Tokens that are still there -/

/-- Components that differ at most in what they have from the nodes inside them: the
components right inside, and the text style. -/
def Component.SameOutside (c d : Component) : Prop :=
  d = { c with
    children := d.children
    styles := { c.styles with typography := d.styles.typography } }

/-- The token of the component that a node is, with a component that may differ. -/
def Token.ofNode (v : Place × Node) (c : Component) : Token :=
  .placed v.1 v.2.name (.component, .component c)

/-- A token that is still there as it was, or that of the component which one of
the `changed` nodes is.  Such a component may hold something else inside. -/
def Token.StillThere (changed : Place × Node → Prop) (old new : Token) : Prop :=
  new = old ∨ ∃ v c, changed v ∧ v.2.component.SameOutside c ∧
    old = .ofNode v v.2.component ∧ new = .ofNode v c

theorem Node.sameOutside_describe (a : Attributes) (text text' : Option Typography)
    (inner inner' : List Component) :
    (describe a text inner).SameOutside (describe a text' inner') := rfl

/-- The tokens of a node that is still at its place are still there. -/
theorem Node.StillThere.forall₂_block {p : Place} {n : Node} {a : List Nat} {v w : Place × Node}
    (there : Node.StillThere p n a v w) (options : ExtractionOptions) :
    List.Forall₂ (Token.StillThere (n.IsOnWay p a)) (v.2.block options v.1)
      (w.2.block options w.1) := by
  rcases there with rfl | ⟨onWay, place, same⟩
  · exact List.forall₂_same.mpr fun _ _ => .inl rfl
  · obtain ⟨q, ⟨own, inside⟩⟩ := v
    obtain ⟨q', ⟨own', inside'⟩⟩ := w
    obtain ⟨rfl, rfl⟩ : q = q' ∧ own = own' := ⟨place.symm, same.symm⟩
    -- All tokens come from the node alone, except that of the component that it may be.
    have styles : List.Forall₂ (Token.StillThere (n.IsOnWay p a)) (styleTokens options q own)
        (styleTokens options q own) := List.forall₂_same.mpr fun _ _ => .inl rfl
    by_cases like : own.kind.isComponentLike
    · rw [block_of_like like, block_of_like like]
      refine List.rel_append styles (.cons (.inr ⟨_, _, onWay, ?_, rfl, rfl⟩) .nil)
      exact sameOutside_describe own _ _ _ _
    · rw [block_of_not_like like, block_of_not_like like]
      exact styles

/-- A tree that is put into a document between the children of a node, none of
which has its name, adds its tokens in one piece.  All other tokens are still
there in their order with the same ids, names and paths, and with the same
payloads, except for what is inside the components of that node and of the nodes
around it. -/
theorem tokens_extract_insertAt (options : ExtractionOptions) {n m s : Node} {a : List Nat}
    (here : n.at? a = some m) (unused : ∀ c ∈ m.children, c.name ≠ s.name) (k : Nat) :
    ∃ q before after, n.placeAt? (Place.root n.name) a = some q ∧
      (extract options (s.insertAt k a n)).map Token.withoutUsage =
        before
          ++ (s.placed (q.child s.name (Segment.escape s.name))).flatMap
            (fun v => v.2.block options v.1)
          ++ after ∧
      List.Forall₂ (Token.StillThere (n.IsOnWay (Place.root n.name) a))
        ((extract options n).map Token.withoutUsage) (before ++ after) := by
  obtain ⟨q, before, after, place, grown, kept⟩ :=
    Node.placed_insertAt k unused here (Place.root n.name)
  refine ⟨q, before.flatMap (fun v => v.2.block options v.1),
    after.flatMap (fun v => v.2.block options v.1), place, ?_, ?_⟩
  · rw [map_extract (fun _ => rfl), Node.map_withoutUsage_outline, Node.outline,
      Node.name_insertAt, grown, List.flatMap_append, List.flatMap_append]
  · rw [map_extract (fun _ => rfl), Node.map_withoutUsage_outline, Node.outline,
      ← List.flatMap_append]
    exact List.rel_flatMap kept fun _ _ there => there.forall₂_block options

/-- A component with a text in it. -/
def titledCard : Node :=
  ⟨{ Attributes.bare "Card" .component with fills := [.solid ⟨1, 1, 1, 1⟩] },
    [⟨.bare "Title" .text, []⟩]⟩

/-- Two cards of one name. -/
def cardsPage : Node := ⟨.bare "Page" .canvas, [titledCard, titledCard]⟩

/-- A component with a text that is put before the title of the first card. -/
def badgeTree : Node := ⟨.bare "Badge" .componentInstance, [⟨.bare "Label" .text, []⟩]⟩

theorem tokens_extract_insertAt_cardsPage :
    cardsPage.at? [0] = some titledCard ∧ (∀ c ∈ titledCard.children, c.name ≠ badgeTree.name) ∧
    ∃ q before after, cardsPage.placeAt? (Place.root cardsPage.name) [0] = some q ∧
      (extract .deep (badgeTree.insertAt 0 [0] cardsPage)).map Token.withoutUsage =
        before
          ++ (badgeTree.placed (q.child badgeTree.name (Segment.escape badgeTree.name))).flatMap
            (fun v => v.2.block .deep v.1)
          ++ after ∧
      List.Forall₂ (Token.StillThere (cardsPage.IsOnWay (Place.root cardsPage.name) [0]))
        ((extract .deep cardsPage).map Token.withoutUsage) (before ++ after) := by
  have unused : ∀ c ∈ titledCard.children, c.name ≠ badgeTree.name := by
    simp [titledCard, badgeTree, Node.name, Attributes.bare]
  exact ⟨rfl, unused, tokens_extract_insertAt .deep rfl unused 0⟩

end DesignTokens
