import DesignTokens.Proofs.Naming.Slug

/-!
# Word breaks

A name may be cut wherever a word ends: at characters that no slug keeps, and in
front of a capital that follows a small letter or a digit.  Its slug is then made
of the slugs of the two parts, so that names that spell the same words in
different ways have the same slug.
-/

namespace DesignTokens.Naming

open DesignTokens.Text

/-! ## Names with words -/

/-- Whether a name has a character that slugs keep. -/
def HasWord (name : String) : Prop := ∃ c ∈ name.toList, isSlugChar c = true

/-- Whether a text may only stand between words. -/
def IsSeparator (s : String) : Prop := s ≠ "" ∧ ∀ c ∈ s.toList, isSlugChar c = false

/-- Whether a capital at the start of a name follows a small letter or a digit at
the end of another. -/
def MeetAtCapital (a b : String) : Prop :=
  ∃ c ∈ a.toList.getLast?, ∃ d ∈ b.toList.head?,
    (isLowercaseLetter c = true ∨ isDecimalDigit c = true) ∧ isUppercaseLetter d = true

instance (name : String) : Decidable (HasWord name) :=
  decidable_of_iff (name.toList.any isSlugChar = true) List.any_eq_true

instance (s : String) : Decidable (IsSeparator s) :=
  decidable_of_iff (s ≠ "" ∧ s.toList.all (fun c => !isSlugChar c) = true)
    (by simp [IsSeparator])

/-! ## Slugs on the two sides of a break -/

theorem kebabChars_of_words {name : List Char} (some : words name ≠ []) :
    kebabChars name = hyphenate ((words name).map lowercase) := by
  rw [kebabChars]
  split
  · rename_i none
    exact absurd none some
  · exact lowercase_hyphenate _

/-- A slug is put together from the slugs of the two sides of a break.  Lower case
does not look past the hyphen between them. -/
theorem kebabChars_append {a b : List Char} (cut : IsBreak a b) (first : words a ≠ [])
    (second : words b ≠ []) : kebabChars (a ++ b) = kebabChars a ++ '-' :: kebabChars b := by
  have whole : words (a ++ b) ≠ [] := by
    rw [words_append cut]
    exact List.append_ne_nil_of_left_ne_nil first _
  rw [kebabChars_of_words whole, kebabChars_of_words first, kebabChars_of_words second,
    words_append cut, List.map_append]
  refine hyphenate_append ?_ ?_
  · exact fun nothing => first (List.map_eq_nil_iff.mp nothing)
  · exact fun nothing => second (List.map_eq_nil_iff.mp nothing)

/-- Separators at the end of a name are not in its slug. -/
theorem kebabChars_append_separators {a s : List Char} (some : words a ≠ [])
    (separators : ∀ c ∈ s, isSlugChar c = false) : kebabChars (a ++ s) = kebabChars a := by
  have cut : IsBreak a s := by
    intro c _ d first _ slug
    rw [separators d (List.mem_of_mem_head? first)] at slug
    cases slug
  have same : words (a ++ s) = words a := by
    rw [words_append cut, words_of_separators separators, List.append_nil]
  rw [kebabChars_of_words some, kebabChars_of_words (same ▸ some), same]

/-! ## Slugs of pieces -/

theorem HasWord.words_ne_nil {name : String} (word : HasWord name) : words name.toList ≠ [] := by
  obtain ⟨c, member, slug⟩ := word
  exact words_ne_nil_of_mem member slug

theorem HasWord.append_left {a b : String} (word : HasWord a) : HasWord (a ++ b) := by
  obtain ⟨c, member, slug⟩ := word
  exact ⟨c, by rw [String.toList_append]; exact List.mem_append_left _ member, slug⟩

theorem MeetAtCapital.isBreak {a b : String} (meeting : MeetAtCapital a b) :
    IsBreak a.toList b.toList := by
  obtain ⟨c, last, d, first, small, capital⟩ := meeting
  intro c' last' d' first' _ _
  rw [Option.mem_unique last' last, Option.mem_unique first' first, isWordBoundary, capital,
    Bool.and_true]
  exact Bool.or_eq_true_iff.mpr small

theorem kebab_append {a b : String} (cut : IsBreak a.toList b.toList) (first : HasWord a)
    (second : HasWord b) : kebab (a ++ b) = kebab a ++ "-" ++ kebab b := by
  rw [← String.toList_inj]
  simp only [kebab, String.toList_append, String.toList_ofList]
  rw [kebabChars_append cut first.words_ne_nil second.words_ne_nil]
  simp

theorem kebab_append_separator {a s : String} (word : HasWord a) (separator : IsSeparator s) :
    kebab (a ++ s) = kebab a := by
  rw [kebab, kebab, String.toList_append,
    kebabChars_append_separators word.words_ne_nil separator.2]

/-- The slug of a name is cut at whatever may stand between words. -/
theorem kebab_separated {a s b : String} (first : HasWord a) (separator : IsSeparator s)
    (second : HasWord b) : kebab (a ++ s ++ b) = kebab a ++ "-" ++ kebab b := by
  obtain ⟨nonempty, separators⟩ := separator
  have cut : IsBreak (a ++ s).toList b.toList := by
    intro c last d _ slug _
    -- What stands in front of the second name is the last character of the separator.
    have inside : c ∈ s.toList := by
      rw [String.toList_append, List.getLast?_append_of_ne_nil _ (by simpa using nonempty)] at last
      exact List.mem_of_mem_getLast? last
    rw [separators c inside] at slug
    cases slug
  rw [kebab_append cut first.append_left second,
    kebab_append_separator first ⟨nonempty, separators⟩]

/-! ## Spellings of words -/

/-- Whether a name spells some pieces one after the other.  Between two of them
stands a separator, or the second one starts with a capital. -/
inductive Spells : List String → String → Prop where
  | last {piece : String} (word : HasWord piece) : Spells [piece] piece
  | separated {piece separator name : String} {pieces : List String} (word : HasWord piece)
      (apart : IsSeparator separator) (others : Spells pieces name) :
      Spells (piece :: pieces) (piece ++ separator ++ name)
  | capital {piece name : String} {pieces : List String} (word : HasWord piece)
      (meeting : MeetAtCapital piece name) (others : Spells pieces name) :
      Spells (piece :: pieces) (piece ++ name)

theorem Spells.hasWord {pieces : List String} {name : String} (spelled : Spells pieces name) :
    HasWord name := by
  cases spelled with
  | last word => exact word
  | separated word _ _ => exact word.append_left.append_left
  | capital word _ _ => exact word.append_left

theorem Spells.map_ne_nil {pieces : List String} {name : String} (spelled : Spells pieces name) :
    pieces.map kebab ≠ [] := by
  cases spelled <;> exact List.cons_ne_nil _ _

/-- A slug has the slugs of all pieces with hyphens between them. -/
theorem Spells.kebab_eq {pieces : List String} {name : String} (spelled : Spells pieces name) :
    kebab name = "-".intercalate (pieces.map kebab) := by
  induction spelled with
  | last _ => simp
  | separated word apart others ih =>
    rw [kebab_separated word apart others.hasWord, ih, List.map_cons,
      String.intercalate_cons_of_ne_nil others.map_ne_nil]
  | capital word meeting others ih =>
    rw [kebab_append meeting.isBreak word others.hasWord, ih, List.map_cons,
      String.intercalate_cons_of_ne_nil others.map_ne_nil]

/-- Slugs are put together at separators and in front of capitals.  So they do not
tell the ways apart in which a name may spell its words. -/
theorem slugs_compose_at_breaks :
    (∀ a b, HasWord a → HasWord b →
      (∀ s, IsSeparator s → kebab (a ++ s ++ b) = kebab a ++ "-" ++ kebab b) ∧
      (MeetAtCapital a b → kebab (a ++ b) = kebab a ++ "-" ++ kebab b)) ∧
    (∀ pieces pieces' name name', Spells pieces name → Spells pieces' name' →
      pieces.map kebab = pieces'.map kebab → kebab name = kebab name') := by
  constructor
  · intro a b first second
    exact ⟨fun s separator => kebab_separated first separator second,
      fun meeting => kebab_append meeting.isBreak first second⟩
  · intro pieces pieces' name name' spelled spelled' same
    rw [spelled.kebab_eq, spelled'.kebab_eq, same]

/-- The capital sigma becomes a final one in front of the separator, as in its own
slug, and the two ways to write the button have one slug. -/
theorem slugs_compose_at_breaks_odosButton :
    (HasWord "ΟΔΟΣ" ∧ HasWord "Σ7" ∧ IsSeparator " / " ∧
      kebab ("ΟΔΟΣ" ++ " / " ++ "Σ7") = kebab "ΟΔΟΣ" ++ "-" ++ kebab "Σ7") ∧
    (HasWord "οδός7" ∧ HasWord "Σ7" ∧ MeetAtCapital "οδός7" "Σ7" ∧
      kebab ("οδός7" ++ "Σ7") = kebab "οδός7" ++ "-" ++ kebab "Σ7") ∧
    (Spells ["primary", "button"] ("primary" ++ "_" ++ "button") ∧
      Spells ["primary", "Button"] ("primary" ++ "Button") ∧
      kebab ("primary" ++ "_" ++ "button") = kebab ("primary" ++ "Button")) := by
  have words : HasWord "ΟΔΟΣ" ∧ HasWord "Σ7" ∧ HasWord "οδός7" ∧ HasWord "primary" ∧
      HasWord "button" ∧ HasWord "Button" := by
    decide +kernel
  obtain ⟨odos, sigma, street, primary, button, capital⟩ := words
  have slash : IsSeparator " / " := by decide +kernel
  have score : IsSeparator "_" := by decide +kernel
  have meeting : MeetAtCapital "οδός7" "Σ7" :=
    ⟨'7', by decide +kernel, 'Σ', by decide +kernel, by decide +kernel⟩
  have spelled : Spells ["primary", "button"] ("primary" ++ "_" ++ "button") :=
    .separated primary score (.last button)
  have spelled' : Spells ["primary", "Button"] ("primary" ++ "Button") :=
    .capital primary ⟨'y', by decide +kernel, 'B', by decide +kernel, by decide +kernel⟩
      (.last capital)
  obtain ⟨pairs, spellings⟩ := slugs_compose_at_breaks
  refine ⟨⟨odos, sigma, slash, (pairs _ _ odos sigma).1 _ slash⟩,
    ⟨street, sigma, meeting, (pairs _ _ street sigma).2 meeting⟩,
    spelled, spelled', spellings _ _ _ _ spelled spelled' (by decide +kernel)⟩

end DesignTokens.Naming
