import DesignTokens.Proofs.Extraction.Components
import DesignTokens.Proofs.Extraction.Origin

/-!
# Usage in documents

A walk counts the name of every node that it enters, and reads the counts when it
is finished.  So the usage of a token tells how often the name of its node occurs
in the whole document, and what kind of node it is.

Key definitions: `Node.occurrences`, `Usage.Tells`.
-/

namespace DesignTokens

/-- The number of nodes of a document that have a name. -/
def Node.occurrences (n : Node) (name : String) : Nat := n.nodes.countP (fun m => m.name = name)

/-- What usage tells of a node of a document. -/
structure Usage.Tells (u : Usage) (n m : Node) : Prop where
  frequency : u.frequency.toNat = n.occurrences m.name
  isReused : u.isReused ↔ 1 < n.occurrences m.name
  isComponent : u.isComponent ↔ m.own.kind = .component ∨ m.own.kind = .componentInstance

/-! ## Numbers of nodes -/

namespace Node

mutual

theorem length_nodes : ∀ n : Node, n.nodes.length = n.count
  | ⟨own, children⟩ => by
    rw [nodes, count, List.length_cons, length_nodesOf children, Nat.add_comm]

theorem length_nodesOf : ∀ ns : List Node, (nodesOf ns).length = countAll ns
  | [] => rfl
  | n :: ns => by
    rw [nodesOf, countAll, List.length_append, length_nodes n, length_nodesOf ns]

end

theorem occurrences_le_count (n : Node) (name : String) : n.occurrences name ≤ n.count := by
  rw [← length_nodes]
  exact List.countP_le_length

end Node

/-! ## Counts of a walk -/

namespace Walk.Findings

/-- A name that is counted once more is counted one more time, and no other one is. -/
theorem getD_get?_alter (counts : OrderedMap String Nat) (entered name : String) :
    ((counts.alter entered (fun n => n.getD 0 + 1)).get? name).getD 0 =
      (counts.get? name).getD 0 + if entered = name then 1 else 0 := by
  rw [OrderedMap.get?_alter]
  by_cases same : name = entered
  · simp [same]
  · simp [same, Ne.symm same]

/-- Each name is counted as often as nodes have it. -/
theorem getD_get?_count (f : Findings) (counts : OrderedMap String Nat) (name : String) :
    ((f.count counts).get? name).getD 0 =
      (counts.get? name).getD 0 + f.nodes.countP (fun v => v.2.name = name) := by
  obtain ⟨nodes, components, text⟩ := f
  rw [count]
  induction nodes generalizing counts with
  | nil => rfl
  | cons v nodes ih =>
    rw [List.foldl_cons, ih, getD_get?_alter, List.countP_cons]
    simp only [decide_eq_true_eq]
    omega

/-- When a document has been walked, each name is counted as often as it occurs. -/
theorem getD_get?_count_ofTree (n : Node) (name : String) :
    (((ofTree (Place.root n.name) n).count .empty).get? name).getD 0 = n.occurrences name := by
  rw [getD_get?_count, ofTree, Node.occurrences, ← Node.map_snd_placed (Place.root n.name),
    List.countP_map]
  exact Nat.zero_add _

end Walk.Findings

/-! ## Usage of tokens -/

namespace Node

theorem isComponentLike_of_mem_block {options : ExtractionOptions} {p : Place} {m : Node}
    {t : Token} (member : t ∈ m.block options p) (kind : t.kind = .component) :
    m.own.kind.isComponentLike := by
  obtain ⟨content, inside, rfl⟩ := exists_of_mem_block member
  have kept : content ∈ (m.contents options).filter (fun content => content.2.kind = .component) :=
    List.mem_filter.mpr ⟨inside, decide_eq_true kind⟩
  rw [filter_contents] at kept
  split at kept
  · assumption
  · cases kept

theorem name_of_mem_block {options : ExtractionOptions} {p : Place} {m : Node} {t : Token}
    (member : t ∈ m.block options p) : t.name = m.name := by
  obtain ⟨content, _, rfl⟩ := exists_of_mem_block member
  rfl

/-- As long as no count runs over, the usage of a token tells of its node. -/
theorem tells_usageOf {n : Node} (small : n.count < 2 ^ 32) {options : ExtractionOptions}
    {p : Place} {m : Node} {t : Token} (member : t ∈ m.block options p) :
    (n.usageOf t m.own.kind.isComponentLike).Tells n m := by
  have bound : n.occurrences m.name < 2 ^ 32 :=
    Nat.lt_of_le_of_lt (n.occurrences_le_count m.name) small
  have frequency : (n.usageOf t m.own.kind.isComponentLike).frequency =
      UInt32.ofNat (n.occurrences m.name) := by
    rw [← name_of_mem_block member]
    exact congrArg UInt32.ofNat (Walk.Findings.getD_get?_count_ofTree n t.name)
  have exact : (UInt32.ofNat (n.occurrences m.name)).toNat = n.occurrences m.name :=
    UInt32.toNat_ofNat_of_lt' bound
  refine ⟨by rw [frequency, exact], ?_, ?_⟩
  · show decide (1 < (n.usageOf t m.own.kind.isComponentLike).frequency) = true ↔ _
    rw [frequency, decide_eq_true_iff, UInt32.lt_iff_toNat_lt, exact]
    rfl
  · -- Only a component has a token of one, so the kind of the token tells nothing new.
    have same : (n.usageOf t m.own.kind.isComponentLike).isComponent =
        m.own.kind.isComponentLike := by
      show (m.own.kind.isComponentLike || decide (t.kind = .component)) = _
      by_cases kind : t.kind = .component
      · rw [isComponentLike_of_mem_block member kind, Bool.true_or]
      · rw [decide_eq_false kind, Bool.or_false]
    rw [same]
    cases m.own.kind <;> simp [NodeKind.isComponentLike]

end Node

/-- An extraction with usage tells of each token how often the name of its node occurs in the whole
document, whether that is more than once, and whether the node is a component.  An
extraction without usage tells nothing. -/
theorem usage_tells_of_origin (blur : Bool) {n : Node} (small : n.count < 2 ^ 32) :
    (∀ t ∈ extract ⟨blur, true⟩ n, ∃ v u, t.IsFrom n v ∧ (∀ w, t.IsFrom n w → w = v) ∧
      t.name = v.2.name ∧ t.usage = some u ∧ u.Tells n v.2) ∧
    ∀ t ∈ extract ⟨blur, false⟩ n, t.usage = none := by
  constructor
  · intro t member
    obtain ⟨v, ⟨placed, isAt⟩, only⟩ := exists_isFrom member
    have own : t ∈ n.tokensFrom ⟨blur, true⟩ v.1 := List.mem_filter.mpr ⟨member, isAt⟩
    rw [Node.tokensFrom_eq _ placed] at own
    obtain ⟨s, block, rfl⟩ := List.mem_map.mp own
    have name : s.name = v.2.name := Node.name_of_mem_block block
    exact ⟨v, _, ⟨placed, isAt⟩, only, name, rfl, Node.tells_usageOf small block⟩
  · intro t member
    rw [extract_without_usage, ← Node.map_withoutUsage_outline] at member
    obtain ⟨s, _, rfl⟩ := List.mem_map.mp member
    rfl

/-- Three nodes of one name inside each other, of which only the one in the middle has tokens. -/
def nestedCards : Node :=
  let filled := { Attributes.bare "Card" .component with fills := [.solid ⟨1, 1, 1, 1⟩] }
  ⟨.bare "Card" .canvas, [⟨filled, [⟨.bare "Title" .text, []⟩, ⟨.bare "Card" .group, []⟩]⟩]⟩

theorem usage_tells_of_origin_nestedCards :
    nestedCards.count < 2 ^ 32 ∧
    (∀ t ∈ extract .deep nestedCards, ∃ v u, t.IsFrom nestedCards v ∧ t.usage = some u ∧
      u.Tells nestedCards v.2) ∧
    (extract .deep nestedCards).map (fun t => (t.name, t.usage)) =
      [("Card", some ⟨true, true, 3⟩), ("Card", some ⟨true, true, 3⟩),
        ("Title", some ⟨false, false, 1⟩)] := by
  have small : nestedCards.count < 2 ^ 32 := by decide
  refine ⟨small, fun t member => ?_, by decide +kernel⟩
  obtain ⟨v, u, origin, _, _, usage, tells⟩ := (usage_tells_of_origin true small).1 t member
  exact ⟨v, u, origin, usage, tells⟩

end DesignTokens
