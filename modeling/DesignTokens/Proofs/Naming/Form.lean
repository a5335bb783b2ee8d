import DesignTokens.Proofs.Naming.Breaks
import DesignTokens.Proofs.Naming.Identifier

/-!
# The form of slugs

A slug is told by its characters: small letters, marks and digits with single
hyphens between them.  The slug of a name has this form, whether it is made of
the words of the name or spells out a name without words.
-/

namespace DesignTokens.Naming

open DesignTokens.Text

/-- What the characters of a slug look like. -/
structure HasSlugForm (t : List Char) : Prop where
  nonempty : t ≠ []
  characters : ∀ c ∈ t, c = '-' ∨ isSlugChar c = true
  start : t.head? ≠ some '-'
  stop : t.getLast? ≠ some '-'
  single : ¬['-', '-'] <:+: t
  small : lowercase t = t

/-- A slug is cut at its hyphens into parts that are not empty. -/
theorem nil_not_mem_splitOn {t : List Char} (slug : IsSlug t) : [] ∉ t.splitOn '-' := by
  obtain ⟨ps, nonempty, parts, rfl⟩ := slug
  have cut : (hyphenate ps).splitOn '-' = ps :=
    List.splitOn_intercalate '-' (fun p member => hyphen_not_mem_of_isWord (parts p member).1)
      nonempty
  rw [cut]
  exact fun member => (parts [] member).1.1 rfl

/-- Neither side of a hyphen in a slug has an empty part. -/
theorem nil_not_mem_of_hyphen {a b : List Char} (slug : IsSlug (a ++ '-' :: b)) :
    [] ∉ a.splitOn '-' ∧ [] ∉ b.splitOn '-' := by
  have parts := nil_not_mem_splitOn slug
  rw [List.splitOn_append_cons_self, List.mem_append, not_or] at parts
  exact parts

theorem lowercase_of_isSlug {t : List Char} (slug : IsSlug t) : lowercase t = t := by
  obtain ⟨ps, _, parts, rfl⟩ := slug
  exact lowercase_hyphenate_of_isSmall fun p member => (parts p member).2

/-- What is made of parts with hyphens between them looks like a slug. -/
theorem hasSlugForm_of_isSlug {t : List Char} (slug : IsSlug t) : HasSlugForm t where
  nonempty := by
    rintro rfl
    exact nil_not_mem_splitOn slug (by simp)
  characters c member := (isSlugChar_of_isSlug slug member).symm
  start := by
    intro first
    obtain ⟨rest, rfl⟩ := List.head?_eq_some_iff.mp first
    exact (nil_not_mem_of_hyphen (a := []) slug).1 (by simp)
  stop := by
    intro last
    obtain ⟨rest, rfl⟩ := List.getLast?_eq_some_iff.mp last
    exact (nil_not_mem_of_hyphen (b := []) slug).2 (by simp)
  single := by
    rintro ⟨a, b, rfl⟩
    -- Between the two hyphens there would be an empty part.
    have regrouped : IsSlug (a ++ '-' :: '-' :: b) := by simpa using slug
    refine (nil_not_mem_of_hyphen regrouped).2 ?_
    rw [← List.nil_append ('-' :: b), List.splitOn_append_cons_self]
    exact List.mem_append_left _ (by simp)
  small := lowercase_of_isSlug slug

/-- The slug of a name has the form of a slug, and so has the spelling of a name,
which is the slug where nothing of the name is kept. -/
theorem hasSlugForm_kebab (name : String) :
    HasSlugForm (kebab name).toList ∧ HasSlugForm (spelling name.toList) ∧
      ((∀ c ∈ name.toList, isSlugChar c = false) →
        (kebab name).toList = spelling name.toList) := by
  rw [kebab, String.toList_ofList]
  refine ⟨hasSlugForm_of_isSlug (isSlug_kebabChars _), hasSlugForm_of_isSlug (isSlug_spelling _), ?_⟩
  intro separators
  rw [kebabChars, words_of_separators separators]

/-- Neither a picture with an exclamation mark nor a blank leaves anything but its spelling. -/
theorem hasSlugForm_kebab_flame :
    ((∀ c ∈ "🔥 !".toList, isSlugChar c = false) ∧
      (kebab "🔥 !").toList = spelling "🔥 !".toList ∧ kebab "🔥 !" = "u1f525-u21") ∧
    ((∀ c ∈ " ".toList, isSlugChar c = false) ∧
      (kebab " ").toList = spelling " ".toList ∧ kebab " " = "unnamed") := by
  have picture : IsSeparator "🔥 !" := by decide +kernel
  have blank : IsSeparator " " := by decide +kernel
  exact ⟨⟨picture.2, (hasSlugForm_kebab _).2.2 picture.2, by decide +kernel⟩,
    ⟨blank.2, (hasSlugForm_kebab _).2.2 blank.2, by decide +kernel⟩⟩

end DesignTokens.Naming
