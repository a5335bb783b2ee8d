import DesignTokens.Proofs.Extraction.Options
import DesignTokens.Proofs.Extraction.Reading

/-!
# Where tokens come from

The id of a token spells out the place of a node, and no two nodes of a document
stand at places that are spelled alike.  So each token comes from one node, and
the tokens from a node are those of its block.

Key definitions: `Token.IsFrom`, `Node.tokensFrom`.
-/

namespace DesignTokens

/-- Whether the id of a token spells out a place. -/
def Token.isAt (t : Token) (p : Place) : Bool := placeOfId t.id.toList = p.text.toList

/-- Whether a token of a document comes from one of its nodes. -/
def Token.IsFrom (t : Token) (n : Node) (v : Place × Node) : Prop :=
  v ∈ n.placed (Place.root n.name) ∧ t.isAt v.1

/-- The tokens of a document that come from the node at a place. -/
def Node.tokensFrom (options : ExtractionOptions) (n : Node) (p : Place) : List Token :=
  (extract options n).filter (fun t => t.isAt p)

namespace Node

/-! ## Places of nodes -/

/-- The text of a place tells the node that stands there. -/
theorem eq_of_text_eq {n : Node} {v w : Place × Node} (here : v ∈ n.placed (Place.root n.name))
    (there : w ∈ n.placed (Place.root n.name)) (same : v.1.text = w.1.text) : v = w := by
  have clean : ∀ s ∈ (Place.root n.name).segments, '/' ∉ s.toList :=
    List.forall_mem_singleton.mpr (Segment.slash_not_mem_numbered 0 n.name)
  have segments : v.1.segments = w.1.segments :=
    Place.text_injective (List.cons_ne_nil _ _) clean (extends_of_mem_placed here)
      (extends_of_mem_placed there) same
  exact List.inj_on_of_nodup_map (nodup_segments_placed (Place.root n.name) n) here there segments

/-- All other nodes of a document stand at other places. -/
theorem exists_split_placed {n : Node} {v : Place × Node}
    (member : v ∈ n.placed (Place.root n.name)) :
    ∃ before after, n.placed (Place.root n.name) = before ++ v :: after ∧
      ∀ w ∈ before ++ after, w.1.text ≠ v.1.text := by
  obtain ⟨before, after, parts⟩ := List.append_of_mem member
  have single : (n.placed (Place.root n.name)).Nodup := (nodup_segments_placed _ n).of_map _
  rw [parts, List.nodup_middle, List.nodup_cons] at single
  refine ⟨before, after, parts, fun w there same => ?_⟩
  have inside : w ∈ n.placed (Place.root n.name) := by
    rw [parts]
    exact List.perm_middle.symm.subset (List.mem_cons_of_mem v there)
  exact single.1 (eq_of_text_eq inside member same ▸ there)

/-! ## Tokens of nodes -/

@[simp] theorem id_marked (options : ExtractionOptions) (n m : Node) (t : Token) :
    (marked options n m t).id = t.id := by
  rw [marked]
  split <;> rfl

/-- What a node contributes is spelled out to be at its place. -/
theorem isAt_of_mem_block {options : ExtractionOptions} {p : Place} {m : Node} {t : Token}
    (member : t ∈ m.block options p) (n : Node) (q : Place) :
    (marked options n m t).isAt q = decide (p.text = q.text) := by
  obtain ⟨content, _, rfl⟩ := exists_of_mem_block member
  have id : (Token.placed p m.name content).id = content.1.id p := rfl
  rw [Token.isAt, id_marked, id, placeOfId_id, decide_eq_decide]
  exact String.toList_inj

/-- The tokens from a node are those of its block. -/
theorem tokensFrom_eq (options : ExtractionOptions) {n : Node} {v : Place × Node}
    (member : v ∈ n.placed (Place.root n.name)) :
    n.tokensFrom options v.1 = (v.2.block options v.1).map (marked options n v.2) := by
  let tokens (w : Place × Node) := (w.2.block options w.1).map (marked options n w.2)
  -- A block is kept as a whole or not at all.
  have kept (w : Place × Node) : (tokens w).filter (fun t => t.isAt v.1) =
      if decide (w.1.text = v.1.text) then tokens w else [] := by
    have each : ∀ t ∈ tokens w, t.isAt v.1 = decide (w.1.text = v.1.text) :=
      List.forall_mem_map.mpr fun t inside => isAt_of_mem_block inside n v.1
    rw [List.filter_congr each]
    split <;> simp [*]
  obtain ⟨before, after, parts, others⟩ := exists_split_placed member
  have nothing {part : List (Place × Node)} (within : part ⊆ before ++ after) :
      part.flatMap (fun w => (tokens w).filter (fun t => t.isAt v.1)) = [] := by
    refine List.flatMap_eq_nil_iff.mpr fun w there => ?_
    rw [kept, if_neg (by simpa using others w (within there))]
  rw [tokensFrom, extract_eq_flatMap, List.filter_flatMap, parts, List.flatMap_append,
    List.flatMap_cons, nothing (List.subset_append_left _ _),
    nothing (List.subset_append_right _ _), kept, if_pos (decide_eq_true rfl), List.nil_append,
    List.append_nil]

end Node

/-- Each token of a document comes from one of its nodes. -/
theorem exists_isFrom {options : ExtractionOptions} {n : Node} {t : Token}
    (member : t ∈ extract options n) :
    ∃ v, t.IsFrom n v ∧ ∀ w, t.IsFrom n w → w = v := by
  rw [extract_eq_flatMap] at member
  obtain ⟨v, placed, inside⟩ := List.mem_flatMap.mp member
  obtain ⟨s, block, rfl⟩ := List.mem_map.mp inside
  have place (p : Place) : (Node.marked options n v.2 s).isAt p ↔ v.1.text = p.text := by
    rw [Node.isAt_of_mem_block block, decide_eq_true_iff]
  refine ⟨v, ⟨placed, (place v.1).mpr rfl⟩, fun w ⟨there, text⟩ => ?_⟩
  exact (Node.eq_of_text_eq placed there ((place w.1).mp text)).symm

end DesignTokens
