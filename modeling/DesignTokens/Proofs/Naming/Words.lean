import DesignTokens.Proofs.Text.Casing
import DesignTokens.Naming.Slug
import Mathlib

/-!
# Words of names

The words of a name are the runs of its slug characters, cut where a capital
follows a small letter or a digit.  Words are cut apart once and for all: the
words of a word are the word itself.
-/

namespace DesignTokens.Naming

open DesignTokens.Text

/-! ## Texts without word boundaries -/

/-- Whether no word starts inside of a text for being a capital. -/
def Unbroken (cs : List Char) : Prop := cs.IsChain (fun c d => isWordBoundary c d = false)

instance (cs : List Char) : Decidable (Unbroken cs) :=
  inferInstanceAs (Decidable (cs.IsChain (fun c d => isWordBoundary c d = false)))

/-- Whether a text has nothing but slug characters, and some of them. -/
def IsWord (cs : List Char) : Prop := cs ≠ [] ∧ ∀ c ∈ cs, isSlugChar c = true

theorem isSlugChar_hyphen : isSlugChar '-' = false := by decide

theorem hyphen_not_mem_of_isWord {w : List Char} (word : IsWord w) : '-' ∉ w := by
  intro member
  have slug := word.2 _ member
  rw [isSlugChar_hyphen] at slug
  cases slug

/-- A hyphen is no word boundary on either side. -/
theorem isWordBoundary_hyphen (c : Char) :
    isWordBoundary c '-' = false ∧ isWordBoundary '-' c = false := by
  have capital : isUppercaseLetter '-' = false := by decide
  have small : (isLowercaseLetter '-' || isDecimalDigit '-') = false := by decide
  rw [isWordBoundary, isWordBoundary, capital, small]
  exact ⟨Bool.and_false _, Bool.false_and _⟩

/-- What stands on the two sides of a hyphen is looked at by itself. -/
theorem unbroken_hyphen {cs ds : List Char} :
    Unbroken (cs ++ '-' :: ds) ↔ Unbroken cs ∧ Unbroken ds := by
  rw [Unbroken, List.isChain_append, List.isChain_cons]
  constructor
  · rintro ⟨left, ⟨_, right⟩, _⟩
    exact ⟨left, right⟩
  · rintro ⟨left, right⟩
    refine ⟨left, ⟨fun d _ => (isWordBoundary_hyphen d).2, right⟩, ?_⟩
    intro c _ d first
    cases first
    exact (isWordBoundary_hyphen c).1

/-! ## Words of a text -/

theorem words_cons_separator {c : Char} (separator : isSlugChar c = false) (cs : List Char) :
    words (c :: cs) = words cs := by
  cases cs with
  | nil => simp [words, separator]
  | cons d rest => simp [words, separator]

theorem words_of_separators {s : List Char} (separators : ∀ c ∈ s, isSlugChar c = false) :
    words s = [] := by
  induction s with
  | nil => rfl
  | cons c cs ih =>
    obtain ⟨here, later⟩ := List.forall_mem_cons.mp separators
    rw [words_cons_separator here, ih later]

/-- The first word starts with the first character that belongs to one. -/
theorem exists_words_cons {c : Char} (slug : isSlugChar c = true) (cs : List Char) :
    ∃ w ws, words (c :: cs) = (c :: w) :: ws := by
  cases cs with
  | nil =>
    rw [words, if_pos slug]
    exact ⟨[], [], rfl⟩
  | cons d rest =>
    rw [words, if_pos slug]
    split
    · cases words (d :: rest) with
      | nil => exact ⟨[], [], rfl⟩
      | cons w ws => exact ⟨w, ws, rfl⟩
    · exact ⟨[], _, rfl⟩

/-- Whether no word goes on from the end of one text into another one. -/
def IsBreak (cs ds : List Char) : Prop :=
  ∀ c ∈ cs.getLast?, ∀ d ∈ ds.head?,
    isSlugChar c = true → isSlugChar d = true → isWordBoundary c d = true

/-- What stands on the two sides of a break is cut into words by itself. -/
theorem words_append {cs ds : List Char} (cut : IsBreak cs ds) :
    words (cs ++ ds) = words cs ++ words ds := by
  fun_induction words cs with
  | case1 => rfl
  | case2 c slug =>
    cases ds with
    | nil => simp [words, slug]
    | cons d ds =>
      -- A slug character behind the break has to start a word.
      have apart : ¬(isSlugChar d && !isWordBoundary c d) = true := by
        rw [Bool.and_eq_true, Bool.not_eq_true', not_and, Bool.not_eq_false]
        exact cut c rfl d rfl slug
      rw [List.singleton_append, words, if_pos slug, if_neg apart]
      rfl
  | case3 c other =>
    rw [Bool.not_eq_true] at other
    exact words_cons_separator other ds
  | case4 c d rest slug joined ih =>
    -- The first word grows by a character, whatever comes behind the break.
    have inside : isSlugChar d = true := by
      rw [Bool.and_eq_true] at joined
      exact joined.1
    obtain ⟨w, ws, first⟩ := exists_words_cons inside rest
    have later : IsBreak (d :: rest) ds := by simpa [IsBreak] using cut
    rw [List.cons_append, List.cons_append, words, if_pos slug, if_pos joined, ← List.cons_append,
      ih later, first]
    rfl
  | case5 c d rest slug apart ih =>
    have later : IsBreak (d :: rest) ds := by simpa [IsBreak] using cut
    rw [List.cons_append, List.cons_append, words, if_pos slug, if_neg apart, ← List.cons_append,
      ih later]
    rfl
  | case6 c d rest other ih =>
    have later : IsBreak (d :: rest) ds := by simpa [IsBreak] using cut
    rw [Bool.not_eq_true] at other
    rw [List.cons_append, words_cons_separator other, ih later]

/-- A separator cuts a text into parts whose words do not meet. -/
theorem words_append_separator {s : Char} (separator : isSlugChar s = false)
    (cs ds : List Char) : words (cs ++ s :: ds) = words cs ++ words ds := by
  have cut : IsBreak cs (s :: ds) := by
    rintro c - d ⟨⟩ - slug
    rw [separator] at slug
    cases slug
  rw [words_append cut, words_cons_separator separator]

/-- No slug character is lost between the words. -/
theorem flatten_words (cs : List Char) : (words cs).flatten = cs.filter isSlugChar := by
  fun_induction words cs with
  | case1 => rfl
  | case2 c slug => simp [slug]
  | case3 c other => simp [other]
  | case4 c d rest slug _ ih =>
    rw [List.filter_cons_of_pos slug, ← ih]
    cases words (d :: rest) <;> rfl
  | case5 c d rest slug _ ih => rw [List.filter_cons_of_pos slug, ← ih]; rfl
  | case6 c d rest other ih => rw [List.filter_cons_of_neg other, ih]

theorem words_ne_nil_of_mem {cs : List Char} {c : Char} (member : c ∈ cs)
    (slug : isSlugChar c = true) : words cs ≠ [] := by
  intro nothing
  have kept : c ∈ (words cs).flatten := by
    rw [flatten_words]
    exact List.mem_filter.mpr ⟨member, slug⟩
  rw [nothing] at kept
  cases kept

theorem words_ne_nil {w : List Char} (word : IsWord w) : words w ≠ [] := by
  obtain ⟨nonempty, inside⟩ := word
  exact words_ne_nil_of_mem (List.head_mem nonempty) (inside _ (List.head_mem nonempty))

/-- What `words` cuts out are words. -/
theorem isWord_of_mem_words {cs w : List Char} (member : w ∈ words cs) :
    IsWord w ∧ Unbroken w := by
  fun_induction words cs generalizing w with
  | case1 => cases member
  | case2 c slug =>
    rw [List.mem_singleton.mp member]
    exact ⟨⟨by simp, by simpa using slug⟩, List.isChain_singleton c⟩
  | case3 c _ => cases member
  | case4 c d rest slug joined ih =>
    rw [Bool.and_eq_true, Bool.not_eq_true'] at joined
    obtain ⟨v, vs, first⟩ := exists_words_cons joined.1 rest
    rw [first] at member ih
    rcases List.mem_cons.mp member with rfl | later
    · obtain ⟨⟨_, inside⟩, chain⟩ := ih List.mem_cons_self
      refine ⟨⟨by simp, ?_⟩, List.isChain_cons_cons.mpr ⟨joined.2, chain⟩⟩
      exact List.forall_mem_cons.mpr ⟨slug, inside⟩
    · exact ih (List.mem_cons_of_mem _ later)
  | case5 c d rest slug _ ih =>
    rcases List.mem_cons.mp member with rfl | later
    · exact ⟨⟨by simp, by simpa using slug⟩, List.isChain_singleton c⟩
    · exact ih later
  | case6 c d rest _ ih => exact ih member

/-- A word without boundaries is all there is. -/
theorem words_of_unbroken {w : List Char} (word : IsWord w) (chain : Unbroken w) :
    words w = [w] := by
  obtain ⟨nonempty, inside⟩ := word
  fun_induction words w with
  | case1 => exact absurd rfl nonempty
  | case2 => rfl
  | case3 c other => exact absurd (inside c List.mem_cons_self) other
  | case4 c d rest _ _ ih =>
    rw [ih (List.isChain_cons_cons.mp chain).2 (by simp)
      (fun x later => inside x (List.mem_cons_of_mem c later))]
    rfl
  | case5 c d rest _ apart _ =>
    have slug : isSlugChar d = true := inside d (by simp)
    have joined : isWordBoundary c d = false := (List.isChain_cons_cons.mp chain).1
    rw [slug, joined] at apart
    exact absurd rfl apart
  | case6 c d rest other _ => exact absurd (inside c List.mem_cons_self) other

/-- The first word is all of a text only where no word starts inside. -/
theorem words_eq_cons_self {w : List Char} {ws : List (List Char)} (word : IsWord w)
    (first : words w = w :: ws) : Unbroken w ∧ ws = [] := by
  have whole : w ++ ws.flatten = w := by
    have kept := flatten_words w
    rw [first, List.filter_eq_self.mpr word.2] at kept
    exact kept
  have here : w ∈ words w := first ▸ List.mem_cons_self
  refine ⟨(isWord_of_mem_words here).2, ?_⟩
  cases ws with
  | nil => rfl
  | cons v vs =>
    have later : v ∈ words w := first ▸ List.mem_cons_of_mem w List.mem_cons_self
    have nonempty : v ≠ [] := (isWord_of_mem_words later).1.1
    simp only [List.flatten_cons, List.append_right_eq_self, List.append_eq_nil_iff] at whole
    exact absurd whole.1 nonempty

/-! ## Words between hyphens -/

theorem hyphenate_cons {p : List Char} {ps : List (List Char)} (nonempty : ps ≠ []) :
    hyphenate (p :: ps) = p ++ '-' :: hyphenate ps := by
  cases ps with
  | nil => exact absurd rfl nonempty
  | cons q qs => simp [hyphenate, List.intercalate]

/-- The parts of a slug can be told from the slug. -/
theorem hyphenate_injective {ps qs : List (List Char)} (nonempty : ps ≠ [])
    (nonempty' : qs ≠ []) (apart : ∀ p ∈ ps, '-' ∉ p) (apart' : ∀ q ∈ qs, '-' ∉ q)
    (same : hyphenate ps = hyphenate qs) : ps = qs := by
  rw [← List.splitOn_intercalate '-' apart nonempty,
    ← List.splitOn_intercalate '-' apart' nonempty']
  exact congrArg (List.splitOn '-') same

theorem hyphenate_singleton (p : List Char) : hyphenate [p] = p := by
  simp [hyphenate]

theorem hyphenate_append {ps qs : List (List Char)} (first : ps ≠ []) (second : qs ≠ []) :
    hyphenate (ps ++ qs) = hyphenate ps ++ '-' :: hyphenate qs := by
  induction ps with
  | nil => exact absurd rfl first
  | cons p ps ih =>
    cases ps with
    | nil => rw [List.singleton_append, hyphenate_cons second, hyphenate_singleton]
    | cons r rs =>
      have more : r :: rs ≠ [] := List.cons_ne_nil r rs
      rw [List.cons_append, hyphenate_cons (by simp), ih more, hyphenate_cons more,
        List.append_assoc, List.cons_append]

theorem words_hyphenate (ps : List (List Char)) : words (hyphenate ps) = ps.flatMap words := by
  induction ps with
  | nil => rfl
  | cons p ps ih =>
    cases ps with
    | nil => simp [hyphenate]
    | cons q qs =>
      rw [hyphenate_cons (by simp), words_append_separator isSlugChar_hyphen, ih]
      rfl

theorem unbroken_hyphenate {ps : List (List Char)} :
    Unbroken (hyphenate ps) ↔ ∀ p ∈ ps, Unbroken p := by
  induction ps with
  | nil => simp [hyphenate, Unbroken]
  | cons p ps ih =>
    cases ps with
    | nil => simp [hyphenate]
    | cons q qs =>
      rw [hyphenate_cons (by simp), unbroken_hyphen, ih]
      exact List.forall_mem_cons.symm

/-- Words stay as they are just if no word starts inside of one. -/
theorem flatMap_words_eq_self {ps : List (List Char)} (word : ∀ p ∈ ps, IsWord p) :
    ps.flatMap words = ps ↔ ∀ p ∈ ps, Unbroken p := by
  induction ps with
  | nil => simp
  | cons p ps ih =>
    obtain ⟨here, later⟩ := List.forall_mem_cons.mp word
    rw [List.flatMap_cons, List.forall_mem_cons]
    constructor
    · -- The first word of all is the first word of `p`, so that `p` has no second one.
      intro same
      obtain ⟨w, ws, parts⟩ := List.exists_cons_of_ne_nil (words_ne_nil here)
      rw [parts, List.cons_append] at same
      obtain ⟨rfl, rest⟩ := List.cons.inj same
      obtain ⟨chain, rfl⟩ := words_eq_cons_self here parts
      exact ⟨chain, (ih later).mp rest⟩
    · rintro ⟨chain, chains⟩
      rw [words_of_unbroken here chain, (ih later).mpr chains]
      rfl

end DesignTokens.Naming
