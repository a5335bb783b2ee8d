import DesignTokens.Naming.Identifier
import DesignTokens.Proofs.Naming.Slug

/-!
# Characters of identifiers

The characters of an identifier come from the slug of its name.  What upper case
makes of them are letters of ASCII or lies beyond ASCII, so that no sign of the
generated languages comes about.
-/

namespace DesignTokens.Naming

open DesignTokens.Text

/-! ## Upper case -/

/-- Whether a character is a capital of ASCII or lies beyond ASCII. -/
def isCapitalForm (c : Char) : Bool :=
  Nat.ble 0x80 c.toNat || (Nat.ble 0x41 c.toNat && Nat.ble c.toNat 0x5A)

theorem isCapitalForm_uppercaseTables :
    uppercaseShifts.all (fun r => isInRange r.image
      && (Nat.ble 0x80 r.image.first || (Nat.ble 0x41 r.image.first && Nat.ble r.image.last 0x5A)))
      = true ∧
    uppercaseExpansions.all (fun e => e.2.all (fun n => isCapitalForm (Char.ofNat n))) = true := by
  decide

theorem isCapitalForm_of_mem_uppercaseChar {c d : Char} (member : d ∈ uppercaseChar c) :
    d = c ∨ isCapitalForm d = true := by
  obtain ⟨shifts, expansions⟩ := isCapitalForm_uppercaseTables
  rcases uppercaseChar_cases member with ⟨e, known, n, form, rfl⟩ | ⟨r, run, inside, rfl⟩ | rfl
  · exact .inr (List.all_eq_true.mp (List.all_eq_true.mp expansions e known) n form)
  · have safe := List.all_eq_true.mp shifts r run
    rw [Bool.and_eq_true, Bool.or_eq_true, Bool.and_eq_true, Nat.ble_eq, Nat.ble_eq,
      Nat.ble_eq] at safe
    obtain ⟨low, high, _⟩ := Run.covers_iff.mp (ShiftRun.covers_image inside)
    refine .inr ?_
    rw [isCapitalForm, toNat_ofNat_of_covers safe.1 inside, Bool.or_eq_true, Bool.and_eq_true,
      Nat.ble_eq, Nat.ble_eq, Nat.ble_eq]
    rcases safe.2 with beyond | ⟨first, last⟩
    · exact .inl (beyond.trans low)
    · exact .inr ⟨first.trans low, high.trans last⟩
  · exact .inl rfl

/-! ## Words of a slug -/

theorem flatten_splitClusters (current : List Char) (gs : List (List Char)) :
    (splitClusters current gs).flatten = current ++ (gs.filter (· ≠ ['-'])).flatten := by
  induction gs generalizing current with
  | nil => simp [splitClusters]
  | cons g gs ih =>
    rw [splitClusters]
    split
    · rename_i alone
      rw [List.flatten_cons, ih, List.filter_cons_of_neg (by simp [alone]), List.nil_append]
    · rename_i other
      rw [ih, List.filter_cons_of_pos (by simp [other]), List.flatten_cons, List.append_assoc]

/-- All that is not in the words of a slug are the hyphens that stand alone. -/
theorem flatten_slugWords (slug : List Char) :
    (slugWords slug).flatten = ((clusters slug).filter (· ≠ ['-'])).flatten := by
  rw [slugWords, List.flatten_filter_not_isEmpty, flatten_splitClusters, List.nil_append]

theorem mem_of_mem_slugWords {slug w : List Char} {c : Char} (word : w ∈ slugWords slug)
    (member : c ∈ w) : c ∈ slug := by
  have inside : c ∈ (slugWords slug).flatten := List.mem_flatten.mpr ⟨w, word, member⟩
  rw [flatten_slugWords] at inside
  obtain ⟨g, kept, here⟩ := List.mem_flatten.mp inside
  rw [← flatten_clusters slug]
  exact List.mem_flatten.mpr ⟨g, (List.mem_filter.mp kept).1, here⟩

/-! ## Identifiers -/

theorem mem_lowercase_slug {cs : List Char} (known : ∀ c ∈ cs, isSlugChar c = true ∨ c = '-')
    {d : Char} (member : d ∈ lowercase cs) : isSlugChar d = true ∨ d = '-' := by
  obtain ⟨c, here, form⟩ := exists_of_mem_lowercaseAfter member
  rcases known c here with slug | rfl
  · exact .inl (isSlugChar_of_mem_smallForms slug form)
  · have hyphen : smallForms '-' = ['-'] := by decide
    rw [hyphen] at form
    exact .inr (List.mem_singleton.mp form)

theorem mem_hyphenate {ps : List (List Char)} {c : Char} (member : c ∈ hyphenate ps) :
    c = '-' ∨ ∃ p ∈ ps, c ∈ p := by
  induction ps with
  | nil => simp [hyphenate] at member
  | cons p ps ih =>
    cases ps with
    | nil => exact .inr ⟨p, List.mem_cons_self, by simpa [hyphenate] using member⟩
    | cons q qs =>
      rw [hyphenate_cons (List.cons_ne_nil q qs), List.mem_append, List.mem_cons] at member
      rcases member with here | rfl | later
      · exact .inr ⟨p, List.mem_cons_self, here⟩
      · exact .inl rfl
      · rcases ih later with hyphen | ⟨r, inside, found⟩
        · exact .inl hyphen
        · exact .inr ⟨r, List.mem_cons_of_mem p inside, found⟩

/-- A text in the form of a slug has nothing but slug characters and hyphens. -/
theorem isSlugChar_of_isSlug {t : List Char} (slug : IsSlug t) {c : Char} (member : c ∈ t) :
    isSlugChar c = true ∨ c = '-' := by
  obtain ⟨ps, _, parts, rfl⟩ := slug
  exact (mem_hyphenate member).elim .inr fun ⟨p, inside, here⟩ => .inl ((parts p inside).1.2 c here)

theorem isSmall_of_isSlug {t : List Char} (slug : IsSlug t) {c : Char} (member : c ∈ t) :
    IsSmall c := by
  obtain ⟨ps, _, parts, rfl⟩ := slug
  rcases mem_hyphenate member with rfl | ⟨p, inside, here⟩
  · decide
  · exact (parts p inside).2 c here

theorem isSlugChar_of_mem_kebabChars {name : List Char} {c : Char} (member : c ∈ kebabChars name) :
    isSlugChar c = true ∨ c = '-' :=
  isSlugChar_of_isSlug (isSlug_kebabChars name) member

theorem mem_capitalize_slug {w : List Char} (known : ∀ c ∈ w, isSlugChar c = true ∨ c = '-')
    {d : Char} (member : d ∈ capitalize w) : (isSlugChar d = true ∨ d = '-') ∨
      ∃ c, (isSlugChar c = true ∨ c = '-') ∧ d ∈ uppercaseChar c := by
  cases w with
  | nil => cases member
  | cons c cs =>
    rw [List.forall_mem_cons] at known
    rcases List.mem_append.mp member with first | others
    · exact .inr ⟨c, known.1, first⟩
    · exact .inl (mem_lowercase_slug known.2 others)

/-- What holds of slug characters, hyphens and their capitals holds of all characters of
words that are run together. -/
theorem forall_mem_pascalWords {P : Char → Prop}
    (slug : ∀ c, isSlugChar c = true ∨ c = '-' → P c)
    (capital : ∀ c, isSlugChar c = true ∨ c = '-' → ∀ d ∈ uppercaseChar c, P d)
    {ws : List (List Char)} (known : ∀ w ∈ ws, ∀ c ∈ w, isSlugChar c = true ∨ c = '-') :
    ∀ c ∈ pascalWords ws, P c := by
  intro c member
  obtain ⟨w, word, here⟩ := List.mem_flatMap.mp member
  rcases mem_capitalize_slug (known w word) here with kept | ⟨d, small, form⟩
  · exact slug c kept
  · exact capital d small c form

theorem mem_words_kebabChars {name w : List Char} (word : w ∈ slugWords (kebabChars name)) :
    ∀ c ∈ w, isSlugChar c = true ∨ c = '-' := fun _ member =>
  isSlugChar_of_mem_kebabChars (mem_of_mem_slugWords word member)

theorem forall_mem_guarded {P : Char → Prop} (underscore : P '_') {t : List Char}
    (each : ∀ c ∈ t, P c) : ∀ c ∈ guarded t, P c := by
  unfold guarded
  split
  · exact List.forall_mem_singleton.mpr underscore
  · split
    · exact each
    · exact List.forall_mem_cons.mpr ⟨underscore, each⟩

/-- What holds of slug characters, of their capitals and of the joining signs holds of all
characters of an identifier. -/
theorem forall_mem_pascalChars {P : Char → Prop}
    (slug : ∀ c, isSlugChar c = true ∨ c = '-' → P c) (underscore : P '_')
    (capital : ∀ c, isSlugChar c = true ∨ c = '-' → ∀ d ∈ uppercaseChar c, P d)
    (name : List Char) : ∀ c ∈ pascalChars name, P c :=
  forall_mem_guarded underscore
    (forall_mem_pascalWords slug capital fun _ word => mem_words_kebabChars word)

/-- The characters that identifiers are made of. -/
def IsIdentifierChar (c : Char) : Prop :=
  isSlugChar c = true ∨ c = '-' ∨ c = '_' ∨ isCapitalForm c = true

/-- Identifiers of names are made of nothing else. -/
theorem isIdentifierChar_of_mem_pascalChars {name : List Char} :
    ∀ c ∈ pascalChars name, IsIdentifierChar c := by
  have slug : ∀ c, isSlugChar c = true ∨ c = '-' → IsIdentifierChar c :=
    fun c known => known.imp_right .inl
  refine forall_mem_pascalChars slug (.inr (.inr (.inl rfl))) (fun c known d form => ?_) name
  rcases isCapitalForm_of_mem_uppercaseChar form with rfl | capital
  · exact slug _ known
  · exact .inr (.inr (.inr capital))

theorem isIdentifierChar_of_mem_pascal (name : String) :
    ∀ c ∈ (pascal name).toList, IsIdentifierChar c := by
  rw [pascal, String.toList_ofList]
  exact isIdentifierChar_of_mem_pascalChars

theorem lineFeed_not_mem_pascal (name : String) : '\n' ∉ (pascal name).toList := by
  intro member
  rcases isIdentifierChar_of_mem_pascal name '\n' member with slug | hyphen | underscore | capital
  · exact absurd slug (by decide)
  · cases hyphen
  · cases underscore
  · cases capital

end DesignTokens.Naming
