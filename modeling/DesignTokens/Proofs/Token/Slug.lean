import DesignTokens.Proofs.Naming.Slug
import DesignTokens.Proofs.Text.Separators
import DesignTokens.Token.Basic

/-!
# Slugs of tokens

The slug of a token is the slug of its name with up to two parts behind it, of
which each tells one thing about the token.  So two tokens of different names
share a slug only where one of the names ends in such parts itself.
-/

namespace DesignTokens.Token

open Naming

/-! ## Qualifiers as parts -/

/-- What the slug of a color tells about its role. -/
def roleParts : PaintRole → List (List Char)
  | .fill => []
  | .stroke => [['s', 't', 'r', 'o', 'k', 'e']]

/-- What the slug of a color tells about its place in the list of paints. -/
def indexParts (index : UInt64) : List (List Char) :=
  if index = 0 then [] else [Decimal.digits (index.toNat + 1)]

/-- What stands behind the name in the slug of a color, part by part. -/
def qualifierParts (use : ColorUse) : List (List Char) := roleParts use.role ++ indexParts use.index

/-- Adds parts to a slug. -/
def extended (t : List Char) (parts : List (List Char)) : List Char :=
  t ++ parts.flatMap (fun p => '-' :: p)

theorem toList_colorQualifier (use : ColorUse) :
    (colorQualifier use).toList = (qualifierParts use).flatMap (fun p => '-' :: p) := by
  rw [colorQualifier, qualifierParts, indexParts]
  cases use.role <;> by_cases first : use.index = 0 <;> simp [first, roleParts]

theorem all_isPlainChar_of_mem_qualifierParts {use : ColorUse} {p : List Char}
    (member : p ∈ qualifierParts use) : p ≠ [] ∧ p.all isPlainChar = true := by
  rw [qualifierParts, List.mem_append] at member
  rcases member with role | index
  · cases which : use.role with
    | fill => simp [which, roleParts] at role
    | stroke =>
      rw [which] at role
      rw [List.mem_singleton.mp role]
      exact ⟨by simp, by decide⟩
  · rw [indexParts] at index
    split at index
    · cases index
    · rw [List.mem_singleton.mp index]
      exact ⟨Decimal.digits_ne_nil _, all_isPlainChar_toDigits (by decide) (by decide)⟩

theorem isSlug_extended {t : List Char} (slug : IsSlug t) {parts : List (List Char)}
    (each : ∀ p ∈ parts, p ≠ [] ∧ p.all isPlainChar = true) :
    IsSlug (extended t parts) ∧ (Unbroken (extended t parts) ↔ Unbroken t) := by
  induction parts using List.reverseRecOn with
  | nil => simpa [extended] using slug
  | append_singleton parts p ih =>
    obtain ⟨form, chain⟩ := ih fun q member => each q (List.mem_append_left [p] member)
    obtain ⟨nonempty, plain⟩ := each p (List.mem_append_right parts List.mem_cons_self)
    have last : extended t (parts ++ [p]) = extended t parts ++ '-' :: p := by
      simp [extended]
    rw [last, unbroken_hyphen, chain]
    refine ⟨isSlug_append form (isPart_of_isPlainChar nonempty plain), ?_⟩
    exact and_iff_left (unbroken_of_isPlainChar plain)

theorem toList_slug (t : Token) :
    t.slug.toList = extended (kebabChars t.name.toList)
      ((t.color?.map qualifierParts).getD []) := by
  rw [slug, color?]
  cases t.payload with
  | color use => simp [kebab, extended, toList_colorQualifier]
  | _ => simp [kebab, extended]

/-- The slug of a token has the form of a slug, and its words are apart just if
those of its name are. -/
theorem isSlug_slug (t : Token) :
    IsSlug t.slug.toList ∧ (Unbroken t.slug.toList ↔ Unbroken (kebab t.name).toList) := by
  rw [toList_slug, kebab, String.toList_ofList]
  refine isSlug_extended (isSlug_kebabChars _) fun p member => ?_
  cases use : t.color? with
  | none => simp [use] at member
  | some use' =>
    rw [use] at member
    exact all_isPlainChar_of_mem_qualifierParts member

/-! ## Slugs of different names -/

/-- Texts with parts behind them are equal only where the parts of one end with
those of the other. -/
theorem extended_eq_extended {a b : List Char} {ps qs : List (List Char)}
    (apart : ∀ p ∈ ps, '-' ∉ p) (apart' : ∀ q ∈ qs, '-' ∉ q)
    (same : extended a ps = extended b qs) :
    (∃ rs, ps = rs ++ qs ∧ b = extended a rs) ∨ (∃ rs, qs = rs ++ ps ∧ a = extended b rs) := by
  have snoc (t : List Char) (parts : List (List Char)) (p : List Char) :
      extended t (parts ++ [p]) = extended t parts ++ '-' :: p := by simp [extended]
  induction ps using List.reverseRecOn generalizing qs with
  | nil => exact .inr ⟨qs, by simp, by simpa [extended] using same⟩
  | append_singleton ps p ih =>
    induction qs using List.reverseRecOn with
    | nil => exact .inl ⟨ps ++ [p], by simp, by simpa [extended] using same.symm⟩
    | append_singleton qs q =>
      rw [List.forall_mem_append, List.forall_mem_singleton] at apart apart'
      rw [snoc, snoc] at same
      obtain ⟨rest, rfl⟩ := Text.eq_of_split_at_last apart.2 apart'.2 same
      rcases ih apart.1 apart'.1 rest with ⟨rs, rfl, longer⟩ | ⟨rs, rfl, longer⟩
      · exact .inl ⟨rs, by simp, longer⟩
      · exact .inr ⟨rs, by simp, longer⟩

theorem hyphen_not_mem_of_mem_qualifierParts {use : ColorUse} :
    ∀ p ∈ qualifierParts use, '-' ∉ p := by
  intro p member hyphen
  have plain := List.all_eq_true.mp (all_isPlainChar_of_mem_qualifierParts member).2 '-' hyphen
  exact absurd plain (by decide)

/-- The first parts of a qualifier are a qualifier. -/
theorem exists_of_prefix_qualifierParts {use : ColorUse} {parts : List (List Char)}
    (start : parts <+: qualifierParts use) : ∃ use', parts = qualifierParts use' := by
  have role : (roleParts use.role).length ≤ 1 := by cases use.role <;> simp [roleParts]
  have index : (indexParts use.index).length ≤ 1 := by rw [indexParts]; split <;> simp
  -- Nothing, the role alone, or all of it: what is left out is a zero or a fill.
  rw [List.prefix_iff_eq_take, qualifierParts, List.take_append] at start
  rw [start]
  generalize parts.length = kept
  cases kept with
  | zero => exact ⟨⟨use.color, .fill, 0⟩, by rw [Nat.zero_sub]; rfl⟩
  | succ kept =>
    rw [List.take_of_length_le (by omega)]
    cases kept + 1 - (roleParts use.role).length with
    | zero => exact ⟨⟨use.color, use.role, 0⟩, rfl⟩
    | succ more =>
      rw [List.take_of_length_le (by omega)]
      exact ⟨use, rfl⟩

theorem indexParts_injective {i j : UInt64} (same : indexParts i = indexParts j) : i = j := by
  rw [indexParts, indexParts] at same
  split at same <;> split at same
  · simp_all
  · cases same
  · cases same
  · have digits := Decimal.digits_injective (List.cons.inj same).1
    exact UInt64.toNat_inj.mp (by omega)

/-- No role is told by digits. -/
theorem roleParts_ne_indexParts {index : UInt64} {rest : List (List Char)} :
    indexParts index ≠ roleParts .stroke ++ rest := by
  intro same
  rw [indexParts] at same
  split at same
  · cases same
  · have letter : 's' ∈ Decimal.digits (index.toNat + 1) := by
      rw [(List.cons.inj same).1]
      exact List.mem_cons_self
    exact absurd (Decimal.isDigit_of_mem_digits letter) (by decide)

/-- A qualifier tells the role and the place. -/
theorem qualifierParts_injective {u v : ColorUse} (same : qualifierParts u = qualifierParts v) :
    u.role = v.role ∧ u.index = v.index := by
  rw [qualifierParts, qualifierParts] at same
  cases left : u.role <;> cases right : v.role <;> rw [left, right] at same
  · exact ⟨rfl, indexParts_injective same⟩
  · exact absurd same roleParts_ne_indexParts
  · exact absurd same.symm roleParts_ne_indexParts
  · exact ⟨rfl, indexParts_injective (List.append_cancel_left same)⟩

/-- Colors of two names share a slug only where one name ends in a qualifier
behind the other. -/
theorem colorQualifier_split {name other : String} {u v : ColorUse}
    (same : name ++ colorQualifier u = other ++ colorQualifier v) :
    (name = other ∧ u.role = v.role ∧ u.index = v.index) ∨
      ∃ use, colorQualifier use ≠ "" ∧
        (other = name ++ colorQualifier use ∨ name = other ++ colorQualifier use) := by
  have lists :
      extended name.toList (qualifierParts u) = extended other.toList (qualifierParts v) := by
    simpa [extended, toList_colorQualifier] using congrArg String.toList same
  -- Parts that one text has and the other lacks are a qualifier of their own.
  have longer : ∀ {a b : String} {x y : ColorUse} {rs : List (List Char)},
      qualifierParts x = rs ++ qualifierParts y → b.toList = extended a.toList rs →
      (a = b ∧ x.role = y.role ∧ x.index = y.index) ∨
        ∃ use, colorQualifier use ≠ "" ∧ b = a ++ colorQualifier use := by
    intro a b x y rs parts text
    obtain ⟨use, rfl⟩ := exists_of_prefix_qualifierParts ⟨_, parts.symm⟩
    have whole : b = a ++ colorQualifier use := by
      rw [← String.toList_inj, text, String.toList_append, toList_colorQualifier, extended]
    by_cases nothing : colorQualifier use = ""
    · have none : qualifierParts use = [] := by
        have empty := congrArg String.toList nothing
        rw [toList_colorQualifier, String.toList_empty, List.flatMap_eq_nil_iff] at empty
        exact List.eq_nil_iff_forall_not_mem.mpr fun p member => by cases empty p member
      rw [none, List.nil_append] at parts
      exact .inl ⟨by rw [whole, nothing, String.append_empty], qualifierParts_injective parts⟩
    · exact .inr ⟨use, nothing, whole⟩
  rcases extended_eq_extended hyphen_not_mem_of_mem_qualifierParts
    hyphen_not_mem_of_mem_qualifierParts lists with ⟨rs, parts, text⟩ | ⟨rs, parts, text⟩
  · exact (longer parts text).imp_right fun ⟨use, nonempty, whole⟩ => ⟨use, nonempty, .inl whole⟩
  · rcases longer parts text with ⟨rfl, role, index⟩ | ⟨use, nonempty, whole⟩
    · exact .inl ⟨rfl, role.symm, index.symm⟩
    · exact .inr ⟨use, nonempty, .inr whole⟩

end DesignTokens.Token
