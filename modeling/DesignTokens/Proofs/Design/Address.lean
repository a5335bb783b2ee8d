import DesignTokens.Design.Node

/-!
# Addresses of nodes

The address of a node lists the numbers of the children that lead to it from the
root.  Addresses are compared like words, so that the smaller one comes first in
the document: a node comes before what is inside it, and that before the siblings
behind it.

`Node.survey` lists nodes with their addresses in document order.
-/

namespace DesignTokens.Node

/-- The node at an address. -/
def at? : Node → List Nat → Option Node
  | n, [] => some n
  | n, i :: rest => n.children[i]?.bind (fun child => at? child rest)

@[simp] theorem at?_nil (n : Node) : n.at? [] = some n := rfl

theorem at?_cons (n : Node) (i : Nat) (rest : List Nat) :
    n.at? (i :: rest) = n.children[i]?.bind (fun child => child.at? rest) := rfl

/-- An address inside a node goes on from the address of the node. -/
theorem at?_append (n : Node) (a b : List Nat) :
    n.at? (a ++ b) = (n.at? a).bind (fun m => m.at? b) := by
  induction a generalizing n with
  | nil => rfl
  | cons i rest ih =>
    rw [List.cons_append, at?_cons, at?_cons]
    cases n.children[i]? with
    | none => rfl
    | some child => exact ih child

/-! ## Nodes with their addresses -/

mutual

/-- The nodes of a tree with their addresses, parents before children.  What is inside
a `closed` node is left out. -/
def survey (closed : Node → Bool) : Node → List (List Nat × Node)
  | ⟨own, children⟩ =>
    ([], ⟨own, children⟩) :: if closed ⟨own, children⟩ then [] else surveyFrom closed 0 children

/-- The nodes of sibling trees, of which the first one is the child number `i`. -/
def surveyFrom (closed : Node → Bool) (i : Nat) : List Node → List (List Nat × Node)
  | [] => []
  | n :: ns => (survey closed n).map (fun v => (i :: v.1, v.2)) ++ surveyFrom closed (i + 1) ns

end

variable {closed : Node → Bool}

theorem mem_surveyFrom {i : Nat} {ns : List Node} {b : List Nat} {m : Node} :
    (b, m) ∈ surveyFrom closed i ns ↔
      ∃ j child a, ns[j]? = some child ∧ (a, m) ∈ survey closed child ∧ b = (i + j) :: a := by
  induction ns generalizing i with
  | nil => simp [surveyFrom]
  | cons n ns ih =>
    rw [surveyFrom, List.mem_append, List.mem_map, ih]
    constructor
    · rintro (⟨w, member, made⟩ | ⟨j, child, a, found, member, rfl⟩)
      · cases made
        exact ⟨0, n, w.1, rfl, member, rfl⟩
      · exact ⟨j + 1, child, a, found, member, by congr 1; omega⟩
    · rintro ⟨j, child, a, found, member, rfl⟩
      cases j with
      | zero =>
        cases found
        exact .inl ⟨(a, m), member, rfl⟩
      | succ j => exact .inr ⟨j, child, a, found, member, by congr 1; omega⟩

/-- What is above an address inside a child are the nodes above it in the child. -/
theorem forall_above_cons {n child : Node} {i : Nat} (found : n.children[i]? = some child)
    {a : List Nat} {P : Node → Prop} :
    (∀ b k, b ≠ [] → b <+: i :: a → b ≠ i :: a → n.at? b = some k → P k) ↔
      ∀ b k, b <+: a → b ≠ a → child.at? b = some k → P k := by
  constructor
  · intro above b k start differ there
    refine above (i :: b) k (by simp) (List.cons_prefix_cons.mpr ⟨rfl, start⟩) (by simpa) ?_
    rw [at?_cons, found]
    exact there
  · rintro above (_ | ⟨j, b⟩) k nonempty start differ there
    · exact absurd rfl nonempty
    · obtain ⟨rfl, inner⟩ := List.cons_prefix_cons.mp start
      rw [at?_cons, found] at there
      exact above b k inner (fun same => differ (same ▸ rfl)) there

theorem mem_surveyFrom_zero {ns : List Node} {m : Node} {i : Nat} {a : List Nat} :
    (i :: a, m) ∈ surveyFrom closed 0 ns ↔
      ∃ child, ns[i]? = some child ∧ (a, m) ∈ child.survey closed := by
  rw [mem_surveyFrom]
  constructor
  · rintro ⟨j, child, b, found, member, address⟩
    cases address
    exact ⟨child, by rwa [Nat.zero_add], member⟩
  · rintro ⟨child, found, member⟩
    exact ⟨i, child, a, found, member, by rw [Nat.zero_add]⟩

/-- Listed are the nodes that no closed node is above, each at its address. -/
theorem mem_survey {n m : Node} {a : List Nat} :
    (a, m) ∈ n.survey closed ↔
      n.at? a = some m ∧ ∀ b k, b <+: a → b ≠ a → n.at? b = some k → closed k = false := by
  induction a generalizing n with
  | nil =>
    have above : ∀ b k, b <+: [] → b ≠ [] → n.at? b = some k → closed k = false :=
      fun b k start differ => absurd (List.prefix_nil.mp start) differ
    obtain ⟨own, children⟩ := n
    have deeper : ([], m) ∉ (if closed ⟨own, children⟩ then []
        else surveyFrom closed 0 children) := by
      split
      · simp
      · simp [mem_surveyFrom]
    rw [survey, List.mem_cons, or_iff_left deeper, and_iff_left above]
    simp [eq_comm]
  | cons i a ih =>
    -- The root is above every other address, and the rest of what is above lies in one child.
    have below : (i :: a, m) ∈ n.survey closed ↔
        closed n = false ∧ (i :: a, m) ∈ surveyFrom closed 0 n.children := by
      obtain ⟨own, children⟩ := n
      rw [survey, List.mem_cons]
      cases closed ⟨own, children⟩ <;> simp
    have above : (∀ b k, b <+: i :: a → b ≠ i :: a → n.at? b = some k → closed k = false) ↔
        closed n = false ∧
          ∀ b k, b ≠ [] → b <+: i :: a → b ≠ i :: a → n.at? b = some k → closed k = false := by
      constructor
      · exact fun above => ⟨above [] n List.nil_prefix (by simp) rfl, fun b k _ => above b k⟩
      · rintro ⟨root, above⟩ (_ | ⟨j, b⟩) k start differ there
        · cases there
          exact root
        · exact above _ k (by simp) start differ there
    rw [below, above, mem_surveyFrom_zero, at?_cons, Option.bind_eq_some_iff]
    constructor
    · rintro ⟨root, child, found, member⟩
      obtain ⟨here, inner⟩ := ih.mp member
      exact ⟨⟨child, found, here⟩, root, (forall_above_cons found).mpr inner⟩
    · rintro ⟨⟨child, found, here⟩, root, inner⟩
      exact ⟨root, child, found, ih.mpr ⟨here, (forall_above_cons found).mp inner⟩⟩

/-- Listed inside a node are the nodes with no closed node in between. -/
theorem mem_surveyFrom_children {n m : Node} {a : List Nat} :
    (a, m) ∈ surveyFrom closed 0 n.children ↔
      a ≠ [] ∧ n.at? a = some m ∧
        ∀ b k, b ≠ [] → b <+: a → b ≠ a → n.at? b = some k → closed k = false := by
  cases a with
  | nil => simp [mem_surveyFrom]
  | cons i a =>
    rw [mem_surveyFrom_zero, at?_cons, Option.bind_eq_some_iff, and_iff_right (by simp)]
    constructor
    · rintro ⟨child, found, member⟩
      obtain ⟨here, inner⟩ := mem_survey.mp member
      exact ⟨⟨child, found, here⟩, (forall_above_cons found).mpr inner⟩
    · rintro ⟨⟨child, found, here⟩, inner⟩
      exact ⟨child, found, mem_survey.mpr ⟨here, (forall_above_cons found).mp inner⟩⟩

mutual

/-- Nodes are listed in document order. -/
theorem pairwise_survey : ∀ n : Node, (n.survey closed).Pairwise (fun v w => v.1 < w.1)
  | ⟨own, children⟩ => by
    rw [survey, List.pairwise_cons]
    constructor
    · rintro ⟨b, m⟩ member
      split at member
      · cases member
      · obtain ⟨j, _, a, _, _, rfl⟩ := mem_surveyFrom.mp member
        exact List.nil_lt_cons _ _
    · split
      · exact .nil
      · exact pairwise_surveyFrom 0 children

theorem pairwise_surveyFrom (i : Nat) :
    ∀ ns : List Node, (surveyFrom closed i ns).Pairwise (fun v w => v.1 < w.1)
  | [] => .nil
  | n :: ns => by
    rw [surveyFrom, List.pairwise_append, List.pairwise_map]
    refine ⟨?_, pairwise_surveyFrom (i + 1) ns, ?_⟩
    · exact (pairwise_survey n).imp fun smaller => List.cons_lt_cons_iff.mpr (.inr ⟨rfl, smaller⟩)
    · -- The children that come later have greater numbers.
      rintro v here ⟨b, m⟩ later
      obtain ⟨u, _, rfl⟩ := List.mem_map.mp here
      obtain ⟨j, _, a, _, _, rfl⟩ := mem_surveyFrom.mp later
      exact List.cons_lt_cons_iff.mpr (.inl (by omega))

end

end DesignTokens.Node
