import DesignTokens.Proofs.Naming.Alphabet

/-!
# Hyphens in identifiers

The words of an identifier are cut at the hyphens of a slug that are clusters of
their own.  A hyphen that a mark attaches to stays inside of its word, so that
the name with such a slug has no identifier.  Nothing else is wrong with any
identifier.
-/

namespace DesignTokens.Naming

open DesignTokens.Text

/-! ## Identifiers -/

/-- Whether a character may stand behind the first one of an identifier: it is in one of
the categories L, Nl, Mn, Mc and Nd of Unicode 17, or an underscore. -/
def continuesIdentifier (c : Char) : Bool :=
  isSlugChar c || inRuns c.toNat addedRuns || c == '_'

/-- Whether a text starts with a letter or an underscore and goes on with characters of
one kind. -/
def IsIdentifierOf (later : Char → Bool) : List Char → Prop
  | [] => False
  | c :: cs => (startsIdentifier c = true ∨ c = '_') ∧ cs.all later = true

/-- Whether a text is an identifier. -/
def IsIdentifier (t : List Char) : Prop := IsIdentifierOf continuesIdentifier t

instance (later : Char → Bool) : (t : List Char) → Decidable (IsIdentifierOf later t)
  | [] => inferInstanceAs (Decidable False)
  | c :: _ => inferInstanceAs (Decidable ((startsIdentifier c = true ∨ c = '_') ∧ _))

instance (t : List Char) : Decidable (IsIdentifier t) :=
  inferInstanceAs (Decidable (IsIdentifierOf continuesIdentifier t))

/-- The hyphen is the only character of names that identifiers do not have. -/
theorem isNameChar_iff {c : Char} :
    isNameChar c = true ↔ continuesIdentifier c = true ∨ c = '-' := by
  simp only [isNameChar, continuesIdentifier, Bool.or_eq_true, beq_iff_eq]
  exact or_right_comm

theorem isIdentifierOf_guarded {later : Char → Bool} {t : List Char}
    (each : ∀ c ∈ t, later c = true) : IsIdentifierOf later (guarded t) := by
  rw [← List.all_eq_true] at each
  unfold guarded
  split
  · exact ⟨.inr rfl, rfl⟩
  · rename_i c cs
    split
    · rename_i start
      rw [List.all_cons, Bool.and_eq_true] at each
      exact ⟨.inl start, each.2⟩
    · exact ⟨.inr rfl, each⟩

/-- A text of name characters becomes an identifier just if it has no hyphen. -/
theorem isIdentifier_guarded_iff {t : List Char} (named : ∀ c ∈ t, isNameChar c = true) :
    IsIdentifier (guarded t) ↔ '-' ∉ t := by
  constructor
  · intro identifier member
    have start : startsIdentifier '-' = false := by decide
    have later : continuesIdentifier '-' = false := by decide
    have absent : ∀ cs : List Char, cs.all continuesIdentifier = true → '-' ∉ cs := by
      intro cs each inside
      have known := List.all_eq_true.mp each '-' inside
      rw [later] at known
      cases known
    unfold guarded at identifier
    split at identifier
    · cases member
    · rename_i c cs
      split at identifier
      · rename_i here
        rcases List.mem_cons.mp member with rfl | inside
        · rw [start] at here
          cases here
        · exact absent cs identifier.2 inside
      · exact absent (c :: cs) identifier.2 member
  · intro absent
    refine isIdentifierOf_guarded fun c member => ?_
    rcases isNameChar_iff.mp (named c member) with known | rfl
    · exact known
    · exact absurd member absent

/-! ## Hyphens of words -/

/-- Whether each hyphen of a text is a cluster of its own. -/
def HyphensAlone (t : List Char) : Prop := ∀ g ∈ clusters t, '-' ∈ g → g = ['-']

theorem hyphen_not_mem_slugWords_iff (slug : List Char) :
    '-' ∉ (slugWords slug).flatten ↔ HyphensAlone slug := by
  rw [flatten_slugWords, List.mem_flatten, HyphensAlone]
  simp only [List.mem_filter, decide_eq_true_eq, not_exists, not_and]
  exact ⟨fun absent g member hyphen => by_contra fun other => absent g ⟨member, other⟩ hyphen,
    fun alone g kept hyphen => kept.2 (alone g kept.1 hyphen)⟩

/-- Upper case makes a hyphen of nothing but a hyphen. -/
theorem hyphen_mem_uppercaseChar_iff {c : Char} : '-' ∈ uppercaseChar c ↔ c = '-' := by
  constructor
  · intro member
    rcases isCapitalForm_of_mem_uppercaseChar member with same | capital
    · exact same.symm
    · cases capital
  · rintro rfl
    decide

theorem hyphen_mem_pascalWords_iff {ws : List (List Char)} (small : ∀ w ∈ ws, ∀ c ∈ w, IsSmall c) :
    '-' ∈ pascalWords ws ↔ '-' ∈ ws.flatten := by
  have word : ∀ w ∈ ws, ('-' ∈ capitalize w ↔ '-' ∈ w) := by
    intro w member
    cases w with
    | nil => exact Iff.rfl
    | cons c cs =>
      have others := (List.forall_mem_cons.mp (small _ member)).2
      rw [capitalize, lowercase, lowercaseAfter_eq_self others, List.mem_append,
        hyphen_mem_uppercaseChar_iff, List.mem_cons, eq_comm]
  rw [pascalWords, List.mem_flatMap, List.mem_flatten]
  exact exists_congr fun w => and_congr_right (word w)

theorem hyphen_mem_camelWords_iff {ws : List (List Char)} (small : ∀ w ∈ ws, ∀ c ∈ w, IsSmall c) :
    '-' ∈ camelWords ws ↔ '-' ∈ ws.flatten := by
  cases ws with
  | nil => exact Iff.rfl
  | cons w ws =>
    obtain ⟨here, later⟩ := List.forall_mem_cons.mp small
    rw [camelWords, lowercase, lowercaseAfter_eq_self here, List.mem_append, List.flatten_cons,
      List.mem_append, hyphen_mem_pascalWords_iff later]

theorem isNameChar_of_mem_camelWords {ws : List (List Char)}
    (known : ∀ w ∈ ws, ∀ c ∈ w, isSlugChar c = true ∨ c = '-') :
    ∀ c ∈ camelWords ws, isNameChar c = true := by
  cases ws with
  | nil => exact fun c member => absurd member List.not_mem_nil
  | cons w ws =>
    obtain ⟨here, later⟩ := List.forall_mem_cons.mp known
    refine List.forall_mem_append.mpr ⟨fun c member => ?_, isNameChar_of_mem_pascalWords later⟩
    exact isNameChar_of_slug (mem_lowercase_slug here member)

/-! ## Hyphens and their neighbours -/

/-- Whether neither of two neighbours is a hyphen that the other one attaches to. -/
def StandApart (c d : Char) : Prop :=
  (c = '-' → joinsPrevious d = false) ∧ (d = '-' → joinsNext c = false)

theorem exists_clusters_cons (c : Char) (cs : List Char) :
    ∃ g gs, clusters (c :: cs) = (c :: g) :: gs := by
  cases cs with
  | nil => exact ⟨[], [], rfl⟩
  | cons d rest =>
    rw [clusters]
    split
    · cases clusters (d :: rest) with
      | nil => exact ⟨[], [], rfl⟩
      | cons g gs => exact ⟨g, gs, rfl⟩
    · exact ⟨[], _, rfl⟩

/-- No hyphen attaches to a neighbour, so one stands alone unless a neighbour attaches
to it. -/
theorem hyphensAlone_iff_isChain (t : List Char) : HyphensAlone t ↔ t.IsChain StandApart := by
  unfold HyphensAlone
  fun_induction clusters t with
  | case1 => simp
  | case2 c => simp [eq_comm]
  | case3 c d rest joined ih =>
    have previous : joinsPrevious '-' = false := by decide
    have next : joinsNext '-' = false := by decide
    obtain ⟨g, gs, first⟩ := exists_clusters_cons d rest
    rw [first, List.forall_mem_cons] at ih
    rw [List.isChain_cons_cons, ← ih, first, extendFirst, List.forall_mem_cons]
    rw [Bool.or_eq_true] at joined
    by_cases hyphen : c = '-' ∨ d = '-'
    · -- The first cluster has a hyphen and another character.
      refine iff_of_false (fun alone => ?_) (fun apart => ?_)
      · have member : '-' ∈ c :: d :: g := by
          rcases hyphen with rfl | rfl <;> simp
        cases alone.1 member
      · obtain ⟨behind, front⟩ := apart.1
        rcases hyphen with rfl | rfl
        · simp [behind rfl, next] at joined
        · simp [front rfl, previous] at joined
    · rw [not_or] at hyphen
      have apart : StandApart c d :=
        ⟨fun here => absurd here hyphen.1, fun here => absurd here hyphen.2⟩
      simp [apart, hyphen, Ne.symm hyphen.1, Ne.symm hyphen.2]
  | case4 c d rest separate ih =>
    rw [Bool.or_eq_true, not_or, Bool.not_eq_true, Bool.not_eq_true] at separate
    have apart : StandApart c d := ⟨fun _ => separate.1, fun _ => separate.2⟩
    rw [List.isChain_cons_cons, ← ih, List.forall_mem_cons]
    simp [apart, eq_comm]

/-! ## Identifiers of names -/

/-- What is made of the words of a slug is an identifier just if the hyphens of the slug
stand alone. -/
theorem isIdentifier_guarded_words {slug t : List Char} (named : ∀ c ∈ t, isNameChar c = true)
    (hyphens : '-' ∈ t ↔ '-' ∈ (slugWords slug).flatten) :
    IsIdentifierOf isNameChar (guarded t) ∧ (IsIdentifier (guarded t) ↔ HyphensAlone slug) := by
  refine ⟨isIdentifierOf_guarded named, ?_⟩
  rw [isIdentifier_guarded_iff named, hyphens, hyphen_not_mem_slugWords_iff]

/-- The camel and Pascal forms of a name start with a letter or an underscore, and all
else in them are letters, marks, digits, underscores and hyphens.  They are identifiers
just if all hyphens of the slug are clusters of their own, which is when no neighbour
attaches to a hyphen. -/
theorem isIdentifier_iff_hyphensAlone (name : String) :
    (IsIdentifierOf isNameChar (camel name).toList ∧
      (IsIdentifier (camel name).toList ↔ HyphensAlone (kebab name).toList)) ∧
    (IsIdentifierOf isNameChar (pascal name).toList ∧
      (IsIdentifier (pascal name).toList ↔ HyphensAlone (kebab name).toList)) ∧
    (HyphensAlone (kebab name).toList ↔ (kebab name).toList.IsChain StandApart) := by
  have known : ∀ w ∈ slugWords (kebabChars name.toList), ∀ c ∈ w,
      isSlugChar c = true ∨ c = '-' := fun _ word => mem_words_kebabChars word
  have small : ∀ w ∈ slugWords (kebabChars name.toList), ∀ c ∈ w, IsSmall c := fun _ word _ member =>
    isSmall_of_isSlug (isSlug_kebabChars _) (mem_of_mem_slugWords word member)
  simp only [camel, pascal, kebab, String.toList_ofList]
  exact ⟨isIdentifier_guarded_words (isNameChar_of_mem_camelWords known)
      (hyphen_mem_camelWords_iff small),
    isIdentifier_guarded_words (isNameChar_of_mem_pascalWords known)
      (hyphen_mem_pascalWords_iff small),
    hyphensAlone_iff_isChain _⟩

/-- A heart leaves nothing in a slug but the mark that asks for its colored picture, and
the mark attaches to the hyphen in front of it. -/
theorem not_isIdentifier_heart :
    kebab "Icon \u2764\uFE0F" = "icon-\uFE0F" ∧
    camel "Icon \u2764\uFE0F" = "icon-\uFE0F" ∧ ¬IsIdentifier (camel "Icon \u2764\uFE0F").toList ∧
    pascal "Icon \u2764\uFE0F" = "Icon-\uFE0F" ∧ ¬IsIdentifier (pascal "Icon \u2764\uFE0F").toList := by
  decide +kernel

end DesignTokens.Naming
