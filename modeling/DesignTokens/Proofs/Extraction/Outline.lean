import DesignTokens.Proofs.Extraction.Contents
import DesignTokens.Proofs.Extraction.Visit

/-!
# Extractions follow the outline

Apart from usage, the tokens of a document are the blocks of its nodes in
document order, as `Node.outline` lists them.
-/

namespace DesignTokens

/-- A token apart from how often its name occurs. -/
def Token.withoutUsage (t : Token) : Token := { t with usage := none }

/-- The tokens of an outline know nothing of usage. -/
theorem Node.map_withoutUsage_outline (options : ExtractionOptions) (n : Node) :
    (n.outline options).map Token.withoutUsage = n.outline options := by
  have unchanged : ∀ t ∈ n.outline options, t.withoutUsage = id t := by
    intro t member
    obtain ⟨⟨p, m⟩, _, inBlock⟩ := List.mem_flatMap.mp member
    obtain ⟨content, _, rfl⟩ := exists_of_mem_block inBlock
    rfl
  rw [List.map_congr_left unchanged, List.map_id]

namespace Walk

theorem Findings.length_flags (options : ExtractionOptions) (f : Findings) :
    (f.flags options).length = (f.tokens options).length := by
  simp [flags, tokens, List.length_flatMap]

theorem visit_document (options : ExtractionOptions) (n : Node) :
    start.visit options (Segment.escape n.name) true n =
      start.absorb options (.ofTree (Place.root n.name) n) := by
  rw [visit_eq]
  rfl

/-- Finishing a walk adds usage to its tokens and changes nothing else. -/
theorem map_withoutUsage_finish {w : Walk} (flagged : w.tokens.size = w.fromComponent.size)
    (options : ExtractionOptions) :
    (w.finish options).map Token.withoutUsage = w.tokens.toList.map Token.withoutUsage := by
  unfold finish
  split
  · -- No token falls out of the zip, since there is a flag for each.
    have paired : (w.tokens.toList.zip w.fromComponent.toList).map Prod.fst = w.tokens.toList :=
      List.map_fst_zip (by simp [flagged])
    calc
      _ = (w.tokens.toList.zip w.fromComponent.toList).map (Token.withoutUsage ∘ Prod.fst) := by
        rw [List.map_map]
        rfl
      _ = _ := by rw [← List.map_map, paired]
  · rfl

/-- A document leaves one flag for each of its tokens, which are those of the outline. -/
theorem tokens_visit_document (options : ExtractionOptions) (n : Node) :
    let w := start.visit options (Segment.escape n.name) true n
    w.tokens.toList = n.outline options ∧ w.tokens.size = w.fromComponent.size := by
  rw [visit_document]
  simp [absorb, start, Findings.length_flags, Findings.tokens, Findings.ofTree, Node.outline]

end Walk

/-- What does not look at usage may be read off the outline. -/
theorem map_extract {β : Type} {f : Token → β} (blind : ∀ t, f t.withoutUsage = f t)
    (options : ExtractionOptions) (n : Node) :
    (extract options n).map f = (n.outline options).map f := by
  obtain ⟨tokens, flagged⟩ := Walk.tokens_visit_document options n
  have same (ts : List Token) : (ts.map Token.withoutUsage).map f = ts.map f := by
    rw [List.map_map]
    exact List.map_congr_left fun t _ => blind t
  rw [extract, ← same, Walk.map_withoutUsage_finish flagged, same, tokens]

/-- Apart from usage, an extraction gives the blocks of all nodes in document order. -/
theorem extract_eq_outline (options : ExtractionOptions) (n : Node) :
    (extract options n).map Token.withoutUsage = n.outline options := by
  have flagged : (Walk.start.absorb options (.ofTree (Place.root n.name) n)).tokens.size =
      (Walk.start.absorb options (.ofTree (Place.root n.name) n)).fromComponent.size := by
    simp [Walk.absorb, Walk.start, Walk.Findings.length_flags]
  rw [extract, Walk.visit_document, Walk.map_withoutUsage_finish flagged,
    ← Node.map_withoutUsage_outline]
  simp [Walk.absorb, Walk.start, Walk.Findings.tokens, Walk.Findings.ofTree, Node.outline]

end DesignTokens
