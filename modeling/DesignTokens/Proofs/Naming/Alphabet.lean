import DesignTokens.Proofs.Naming.Identifier

/-!
# The alphabet of names

Slugs and identifiers have nothing but letters, numerals that count as letters,
marks, decimal digits, hyphens and underscores.  The tables of letters are those
of Unicode 16.  Casing is that of Unicode 17, which has a capital for two of
these letters that none of the tables knows yet, so the alphabet is that of
Unicode 17 as well.
-/

namespace DesignTokens.Naming

open DesignTokens.Text

/-- What Unicode 17 added to the categories L, Nl, Mn, Mc and Nd. -/
def addedRuns : List Run := [
  ⟨0x88F, 0x88F, 1⟩, ⟨0xC5C, 0xC5C, 1⟩, ⟨0xCDC, 0xCDC, 1⟩, ⟨0x1ACF, 0x1ADD, 1⟩,
  ⟨0x1AE0, 0x1AEB, 1⟩, ⟨0xA7CE, 0xA7CF, 1⟩, ⟨0xA7D2, 0xA7D2, 1⟩, ⟨0xA7D4, 0xA7D4, 1⟩,
  ⟨0xA7F1, 0xA7F1, 1⟩, ⟨0x10940, 0x10959, 1⟩, ⟨0x10EC5, 0x10EC7, 1⟩, ⟨0x10EFA, 0x10EFB, 1⟩,
  ⟨0x11B60, 0x11B67, 1⟩, ⟨0x11DB0, 0x11DDB, 1⟩, ⟨0x11DE0, 0x11DE9, 1⟩, ⟨0x16EA0, 0x16EB8, 1⟩,
  ⟨0x16EBB, 0x16ED3, 1⟩, ⟨0x16FF2, 0x16FF6, 1⟩, ⟨0x187F8, 0x187FF, 1⟩, ⟨0x18D09, 0x18D1E, 1⟩,
  ⟨0x18D80, 0x18DF2, 1⟩, ⟨0x1E6C0, 0x1E6DE, 1⟩, ⟨0x1E6E0, 0x1E6F5, 1⟩, ⟨0x1E6FE, 0x1E6FF, 1⟩,
  ⟨0x2B73A, 0x2B73F, 1⟩, ⟨0x2CEA2, 0x2CEAD, 1⟩, ⟨0x323B0, 0x33479, 1⟩]

/-- Whether a character is in one of the categories L, Nl, Mn, Mc and Nd of Unicode 17, or a
hyphen or an underscore. -/
def isNameChar (c : Char) : Bool :=
  isSlugChar c || inRuns c.toNat addedRuns || c == '-' || c == '_'

/-! ## Capitals -/

/-- The tables of the characters that are kept, and of those that capitals add. -/
def nameTables : List (List Run) := slugTables ++ [addedRuns]

theorem isNameChar_of_nameTables {c : Char} (known : nameTables.any (inRuns c.toNat) = true) :
    isNameChar c = true := by
  rw [nameTables, List.any_append, ← isSlugChar_eq] at known
  simp only [List.any_cons, List.any_nil, Bool.or_false] at known
  rw [isNameChar, known]
  rfl

theorem leadsInto_uppercaseTables :
    uppercaseShifts.all (fun r => leadsInto nameTables r && isInRange r.image) = true ∧
    uppercaseExpansions.all (fun e => e.2.all (fun n => isNameChar (Char.ofNat n))) = true := by
  decide +kernel

/-- A capital of a slug character is a letter of the alphabet. -/
theorem isNameChar_of_mem_uppercaseChar {c d : Char} (slug : isSlugChar c = true)
    (member : d ∈ uppercaseChar c) : isNameChar d = true := by
  obtain ⟨shifts, expansions⟩ := leadsInto_uppercaseTables
  rcases uppercaseChar_cases member with ⟨e, known, n, form, rfl⟩ | ⟨r, run, inside, rfl⟩ | rfl
  · exact List.all_eq_true.mp (List.all_eq_true.mp expansions e known) n form
  · have leads := List.all_eq_true.mp shifts r run
    rw [Bool.and_eq_true] at leads
    rw [isSlugChar_eq] at slug
    apply isNameChar_of_nameTables
    rw [toNat_ofNat_of_covers leads.2 inside]
    exact inRuns_of_leadsInto leads.1 inside slug
  · rw [isNameChar, slug]
    rfl

/-! ## Slugs and identifiers -/

theorem isNameChar_of_slug {c : Char} (known : isSlugChar c = true ∨ c = '-') :
    isNameChar c = true := by
  rcases known with slug | rfl
  · rw [isNameChar, slug]
    rfl
  · decide

theorem isNameChar_of_mem_kebab {name : String} :
    ∀ c ∈ (kebab name).toList, isNameChar c = true := by
  rw [kebab, String.toList_ofList]
  exact fun c member => isNameChar_of_slug (isSlugChar_of_mem_kebabChars member)

theorem isNameChar_of_mem_pascalWords {ws : List (List Char)}
    (known : ∀ w ∈ ws, ∀ c ∈ w, isSlugChar c = true ∨ c = '-') :
    ∀ c ∈ pascalWords ws, isNameChar c = true := by
  refine forall_mem_pascalWords (fun c => isNameChar_of_slug) ?_ known
  rintro c (slug | rfl) d form
  · exact isNameChar_of_mem_uppercaseChar slug form
  · have hyphen : uppercaseChar '-' = ['-'] := by decide
    rw [hyphen, List.mem_singleton] at form
    rw [form]
    decide

theorem isNameChar_of_mem_pascal {name : String} :
    ∀ c ∈ (pascal name).toList, isNameChar c = true := by
  rw [pascal, String.toList_ofList]
  exact forall_mem_guarded (by decide)
    (isNameChar_of_mem_pascalWords fun _ word => mem_words_kebabChars word)

end DesignTokens.Naming
