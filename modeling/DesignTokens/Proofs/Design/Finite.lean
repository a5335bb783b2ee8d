import DesignTokens.Proofs.Design.Document
import DesignTokens.Proofs.Design.Json

/-!
# Numbers of documents

JSON has no infinities, so that the tree of a document has only finite numbers,
whatever the text of the document is.
-/

namespace DesignTokens

open Json

/-! ## Attributes -/

namespace Attributes

instance : HasFinite Attributes where
  IsFinite a := IsFinite a.fills ∧ IsFinite a.strokes ∧ IsFinite a.effects ∧ IsFinite a.style ∧
    IsFinite a.paddingTop ∧ IsFinite a.paddingRight ∧ IsFinite a.paddingBottom ∧
    IsFinite a.paddingLeft ∧ IsFinite a.itemSpacing ∧ IsFinite a.counterAxisSpacing

theorem isFinite_bare (name : String) (kind : NodeKind) : IsFinite (bare name kind) :=
  ⟨isFinite_nil, isFinite_nil, isFinite_nil, isFinite_none, isFinite_none, isFinite_none,
    isFinite_none, isFinite_none, isFinite_none, isFinite_none⟩

theorem isFinite_of_attributes? {fields : List (String × Json)} {a : Attributes}
    (possible : HavePossible fields) (read : Node.attributes? fields = some a) : IsFinite a := by
  -- The id, the name and the kind hold no numbers.
  iterate 3 obtain ⟨_, -, read⟩ := Option.bind_eq_some_iff.mp read
  obtain ⟨_, fills, read⟩ := Option.bind_eq_some_iff.mp read
  obtain ⟨_, strokes, read⟩ := Option.bind_eq_some_iff.mp read
  obtain ⟨_, effects, read⟩ := Option.bind_eq_some_iff.mp read
  obtain ⟨_, style, read⟩ := Option.bind_eq_some_iff.mp read
  iterate 2 obtain ⟨_, -, read⟩ := Option.bind_eq_some_iff.mp read
  obtain ⟨_, top, read⟩ := Option.bind_eq_some_iff.mp read
  obtain ⟨_, right, read⟩ := Option.bind_eq_some_iff.mp read
  obtain ⟨_, bottom, read⟩ := Option.bind_eq_some_iff.mp read
  obtain ⟨_, left, read⟩ := Option.bind_eq_some_iff.mp read
  obtain ⟨_, item, read⟩ := Option.bind_eq_some_iff.mp read
  obtain ⟨_, counter, read⟩ := Option.bind_eq_some_iff.mp read
  obtain ⟨_, -, read⟩ := Option.bind_eq_some_iff.mp read
  cases read
  -- A list that is left out is empty.
  exact ⟨isFinite_of_orElse? possible (List.forall_mem_nil _) fills,
    isFinite_of_orElse? possible (List.forall_mem_nil _) strokes,
    isFinite_of_orElse? possible (List.forall_mem_nil _) effects,
    isFinite_of_optional? possible style,
    isFinite_of_optional? possible top, isFinite_of_optional? possible right,
    isFinite_of_optional? possible bottom, isFinite_of_optional? possible left,
    isFinite_of_optional? possible item, isFinite_of_optional? possible counter⟩

end Attributes

/-! ## Trees -/

namespace Node

mutual

/-- Whether all numbers of a tree are finite. -/
def IsFinite : Node → Prop
  | ⟨own, children⟩ => DesignTokens.IsFinite own ∧ AreFinite children

/-- Whether all numbers of several trees are finite. -/
def AreFinite : List Node → Prop
  | [] => True
  | n :: ns => IsFinite n ∧ AreFinite ns

end

theorem isFinite_iff {n : Node} :
    n.IsFinite ↔ DesignTokens.IsFinite n.own ∧ AreFinite n.children := by
  cases n
  exact Iff.rfl

theorem areFinite_iff {ns : List Node} : AreFinite ns ↔ ∀ n ∈ ns, n.IsFinite := by
  induction ns with
  | nil => simp [AreFinite]
  | cons n ns ih => simp [AreFinite, ih]

/-- The nodes inside a node are read from smaller documents. -/
theorem isFinite_of_ofJson? {j : Json} {n : Node} (possible : IsPossible j)
    (read : ofJson? j = some n) : n.IsFinite := by
  rw [Document.ofJson?_eq] at read
  simp only [Option.bind_eq_bind, Option.bind_eq_some_iff] at read
  obtain ⟨fields, record, own, attributes, children, below, ⟨⟩⟩ := read
  have inside := havePossible_of_record? possible record
  refine ⟨Attributes.isFinite_of_attributes? inside attributes, ?_⟩
  rw [areFinite_iff]
  intro m member
  rw [orElse?] at below
  split at below
  · rename_i content found
    obtain ⟨items, rfl, item, here, read⟩ := exists_item_of_mem below member
    have part := isPossible_of_get? inside found
    have smaller : sizeOf item < sizeOf j := by
      have outer := sizeOf_lt_of_get? record found
      have inner := List.sizeOf_lt_of_mem here
      rw [Json.arr.sizeOf_spec] at outer
      omega
    exact isFinite_of_ofJson? (arePossible_iff.mp part item here) read
  · cases below
    cases member
termination_by sizeOf j

end Node

/-! ## Documents -/

namespace Document

theorem isPossible_root {j : Json} (possible : IsPossible j) : IsPossible (root j) := by
  cases j with
  | obj fields =>
    rw [root]
    split
    · rename_i inner _ found
      exact isPossible_of_get? possible found
    · exact possible
  | _ => exact possible

/-- Every value that is accepted as a document has finite numbers. -/
theorem isFinite_of_ofValue? {j : Json} {n : Node} (possible : IsPossible j)
    (accepted : ofValue? j = .ok n) : n.IsFinite := by
  rw [ofValue?] at accepted
  split at accepted
  · cases accepted
  · split at accepted
    · rename_i built
      cases accepted
      exact Node.isFinite_of_ofJson? (isPossible_root possible) built
    · cases accepted

/-- Every text that is accepted as a document has finite numbers. -/
theorem isFinite_of_ofText? {text : String} {n : Node} (accepted : ofText? text = .ok n) :
    n.IsFinite := by
  rw [ofText?] at accepted
  split at accepted
  · rename_i value found
    obtain ⟨j, read, value⟩ := Option.bind_eq_some_iff.mp found
    exact isFinite_of_ofValue? (isPossible_of_value? (isPossible_of_read? read) value) accepted
  · cases accepted

end Document

end DesignTokens
