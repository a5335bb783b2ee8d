import DesignTokens.Proofs.Extraction.Reduction
import DesignTokens.Proofs.Generation.Contents

/-!
# What the options of an extraction change

Whether blurs are recorded decides about the tokens of blurs and about nothing
else, neither the ids of the shadows beside them nor the components around them.
Token sets and projects do not see blurs.  Whether usage is recorded decides
about the usage of tokens and about nothing else.
-/

namespace DesignTokens

/-- Whether a payload is a blur. -/
def Payload.isBlur : Payload → Bool
  | .shadow shade => shade.kind.isBlur
  | _ => false

/-- Whether a token is that of a blur. -/
def Token.isBlur (t : Token) : Bool := t.payload.isBlur

/-! ## Usage of a document -/

namespace Node

/-- How often the name of a token occurs in a document, as it is known once all
nodes have been counted. -/
def usageOf (n : Node) (t : Token) (fromComponent : Bool) : Usage :=
  let counts := (Walk.Findings.ofTree (Place.root n.name) n).count .empty
  Walk.usageOf { Walk.start with counts } t fromComponent

/-- A token of a node in a document with what the options add to it. -/
def marked (options : ExtractionOptions) (n m : Node) (t : Token) : Token :=
  if options.usageMetadata then
    { t with usage := some (n.usageOf t m.own.kind.isComponentLike) }
  else t

@[simp] theorem isBlur_marked (options : ExtractionOptions) (n m : Node) (t : Token) :
    (marked options n m t).isBlur = t.isBlur := by
  rw [marked]
  split <;> rfl

end Node

/-- Lists that come in parts of equal lengths, each part of the second list having one
element only, are paired part by part. -/
theorem zip_flatMap_map {α β γ : Type} (xs : List α) (f : α → List β) (g : α → γ) :
    (xs.flatMap f).zip (xs.flatMap (fun x => (f x).map (fun _ => g x))) =
      xs.flatMap (fun x => (f x).map (fun y => (y, g x))) := by
  induction xs with
  | nil => rfl
  | cons x xs ih =>
    have first : (f x).zip ((f x).map (fun _ => g x)) = (f x).map (fun y => (y, g x)) := by
      simpa using List.zip_map' (l := f x) (f := id) (g := fun _ => g x)
    rw [List.flatMap_cons, List.flatMap_cons, List.flatMap_cons,
      List.zip_append (List.length_map _).symm, first, ih]

/-- The tokens of a document come block by block, and only their usage depends on other nodes. -/
theorem extract_eq_flatMap (options : ExtractionOptions) (n : Node) :
    extract options n = (n.placed (Place.root n.name)).flatMap (fun v =>
      (v.2.block options v.1).map (Node.marked options n v.2)) := by
  rw [extract, Walk.visit_document, Walk.finish]
  split
  · rename_i recorded
    have same (m : Node) : Node.marked options n m =
        fun t => { t with usage := some (n.usageOf t m.own.kind.isComponentLike) } :=
      funext fun t => if_pos recorded
    simp only [Walk.absorb, Walk.start, Array.empty_append, List.toList_toArray,
      Walk.Findings.tokens, Walk.Findings.flags, Walk.Findings.ofTree, zip_flatMap_map,
      List.map_flatMap, List.map_map, same]
    rfl
  · rename_i unrecorded
    have same (m : Node) : Node.marked options n m = id :=
      funext fun t => if_neg unrecorded
    simp only [Walk.absorb, Walk.start, Array.empty_append, List.toList_toArray,
      Walk.Findings.tokens, Walk.Findings.ofTree, same, List.map_id]

/-! ## Blurs -/

/-- A blur is recorded just if the options say so, and what is no blur without regard to that. -/
theorem ExtractionOptions.records_iff (usage : Bool) (kind : EffectKind) :
    records ⟨false, usage⟩ kind = (records ⟨true, usage⟩ kind && !kind.isBlur) := by
  cases kind <;> rfl

namespace Node

theorem filter_colorContents (role : PaintRole) (paints : List Paint) :
    (colorContents role paints).filter (fun content => !content.2.isBlur) =
      colorContents role paints := by
  rw [List.filter_eq_self]
  intro content member
  obtain ⟨⟨paint, index⟩, _, made⟩ := List.mem_filterMap.mp member
  obtain ⟨color, _, rfl⟩ := Option.map_eq_some_iff.mp made
  rfl

/-- The effects that are left keep the numbers that they have among all of them. -/
theorem filter_effectContents (usage : Bool) (effects : List Effect) :
    (effectContents ⟨true, usage⟩ effects).filter (fun content => !content.2.isBlur) =
      effectContents ⟨false, usage⟩ effects := by
  rw [effectContents, effectContents, List.filter_filterMap]
  refine List.filterMap_congr ?_
  rintro ⟨effect, index⟩ _
  have blur : (Payload.shadow (.ofEffect effect)).isBlur = effect.kind.isBlur := rfl
  simp only [ExtractionOptions.records_iff usage]
  by_cases recorded : ExtractionOptions.records ⟨true, usage⟩ effect.kind
  · cases kind : effect.kind.isBlur <;> simp [recorded, blur, kind]
  · simp [recorded]

theorem filter_contents_isBlur (usage : Bool) (n : Node) :
    (n.contents ⟨true, usage⟩).filter (fun content => !content.2.isBlur) =
      n.contents ⟨false, usage⟩ := by
  simp only [contents, List.filter_append, filter_colorContents, filter_effectContents]
  cases n.own.text? <;> cases n.own.layout? <;> cases n.own.kind.isComponentLike <;>
    simp [Payload.isBlur]

theorem filter_block_isBlur (usage : Bool) (p : Place) (n : Node) :
    (n.block ⟨true, usage⟩ p).filter (fun t => !t.isBlur) = n.block ⟨false, usage⟩ p := by
  rw [block_eq_map, block_eq_map, ← filter_contents_isBlur, List.filter_map]
  rfl

end Node

/-- Without blurs there are just the tokens that are none with blurs. -/
theorem filter_extract_isBlur (usage : Bool) (n : Node) :
    (extract ⟨true, usage⟩ n).filter (fun t => !t.isBlur) = extract ⟨false, usage⟩ n := by
  rw [extract_eq_flatMap, extract_eq_flatMap, List.filter_flatMap]
  refine List.flatMap_congr fun v _ => ?_
  have blind : (fun t : Token => !t.isBlur) ∘ Node.marked ⟨true, usage⟩ n v.2 =
      fun t => !t.isBlur := funext fun t => congrArg not (Node.isBlur_marked _ n v.2 t)
  rw [List.filter_map, blind, Node.filter_block_isBlur]
  rfl

/-! ## Token sets and projects -/

/-- What passes over some tokens may as well not be given them. -/
theorem foldl_filter_of_idle {σ : Type} {step : σ → Token → σ} {keep : Token → Bool}
    (idle : ∀ s t, keep t = false → step s t = s) (ts : List Token) (s : σ) :
    (ts.filter keep).foldl step s = ts.foldl step s := by
  rw [List.foldl_filter]
  congr 1
  funext s t
  split
  · rfl
  · rename_i dropped
    exact (idle s t (by simpa using dropped)).symm

theorem EffectKind.isShadow_eq_false_of_isBlur {kind : EffectKind} (blur : kind.isBlur) :
    kind.isShadow = false := by
  cases kind <;> first | rfl | cases blur

/-- A blur has no stylesheet value that could be stacked upon the shadows of its name. -/
theorem TokenSet.add_of_isBlur (s : TokenSet) {t : Token} (blur : t.isBlur) : s.add t = s := by
  obtain ⟨id, name, path, payload, usage⟩ := t
  cases payload with
  | shadow shade =>
    have value : shade.shorthand? = none :=
      Shade.shorthand?_eq_none_iff.mpr (EffectKind.isShadow_eq_false_of_isBlur blur)
    rw [add]
    simp only [value]
  | _ => cases blur

theorem TokenSet.ofTokens_filter_isBlur (ts : List Token) :
    ofTokens (ts.filter (fun t => !t.isBlur)) = ofTokens ts :=
  foldl_filter_of_idle (fun s t blur => s.add_of_isBlur (by simpa using blur)) ts empty

/-- A project is made of styles, none of which is a blur, and of components. -/
theorem Session.generate_filter_isBlur (s : Session) (ts : List Token) :
    s.generate (ts.filter (fun t => !t.isBlur)) = s.generate ts := by
  apply s.generate_eq_of_contents
  · apply filterMap_filter_of_none
    rintro ⟨id, name, path, payload, usage⟩ blur
    cases payload with
    | shadow shade => rfl
    | _ => cases blur
  · apply filterMap_filter_of_none
    rintro ⟨id, name, path, payload, usage⟩ blur
    cases payload with
    | shadow shade => rfl
    | _ => cases blur

/-! ## Both options -/

theorem extract_without_usage (blur : Bool) (n : Node) :
    extract ⟨blur, false⟩ n = n.outline ⟨blur, false⟩ :=
  (Walk.tokens_visit_document ⟨blur, false⟩ n).1

/-- An extraction without blurs is one with blurs from which the tokens of blurs
have been deleted, and all else stays as it is: no token set and no project
differs.  An extraction without usage is one with usage from which the usage has
been deleted. -/
theorem options_decide_about_blurs_and_usage (n : Node) :
    (∀ usage, extract ⟨false, usage⟩ n =
        (extract ⟨true, usage⟩ n).filter (fun t => !t.isBlur) ∧
      TokenSet.ofTokens (extract ⟨false, usage⟩ n) =
        TokenSet.ofTokens (extract ⟨true, usage⟩ n) ∧
      ∀ s : Session, s.generate (extract ⟨false, usage⟩ n) =
        s.generate (extract ⟨true, usage⟩ n)) ∧
    ∀ blur, (extract ⟨blur, true⟩ n).map Token.withoutUsage = extract ⟨blur, false⟩ n := by
  refine ⟨fun usage => ?_, fun blur => ?_⟩
  · have deleted := filter_extract_isBlur usage n
    refine ⟨deleted.symm, ?_, fun s => ?_⟩
    · rw [← deleted, TokenSet.ofTokens_filter_isBlur]
    · rw [← deleted, Session.generate_filter_isBlur]
  · -- Which effects are recorded does not depend on usage, so both have one outline.
    have outlines : n.outline ⟨blur, true⟩ = n.outline ⟨blur, false⟩ := rfl
    rw [map_extract (fun _ => rfl), Node.map_withoutUsage_outline, extract_without_usage, outlines]

end DesignTokens
