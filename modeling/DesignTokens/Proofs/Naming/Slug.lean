import DesignTokens.Proofs.Naming.Words
import DesignTokens.Proofs.Decimal.Digits

/-!
# Slugs of slugs

A slug is made of parts with hyphens between them, and each part has nothing
but small characters.  The slug of a slug is the slug itself as long as no word
starts inside of a part.  One may: a capital without a small form stays a
capital in a slug.
-/

namespace DesignTokens.Naming

open DesignTokens.Text

/-! ## Small forms of slug characters -/

/-- The tables of the characters that a slug keeps. -/
def slugTables : List (List Run) :=
  [letterRuns, letterNumberRuns, nonspacingMarkRuns, spacingMarkRuns, decimalDigitRuns]

theorem isSlugChar_eq (c : Char) : isSlugChar c = slugTables.any (inRuns c.toNat) := by
  simp [isSlugChar, slugTables, isLetter, isLetterNumber, isNonspacingMark, isSpacingMark,
    isDecimalDigit, Bool.or_assoc]

/-- Whether one run of a sorted list has all code points from one to another. -/
def spans (first last : Nat) : List Run → Bool
  | [] => false
  | r :: rs =>
    Nat.ble r.first first
      && ((Nat.beq r.step 1 && Nat.ble last r.last) || spans first last rs)

theorem inRuns_of_spans {first last n : Nat} {rs : List Run} (inside : spans first last rs = true)
    (low : first ≤ n) (high : n ≤ last) : inRuns n rs = true := by
  induction rs with
  | nil => cases inside
  | cons r rs ih =>
    simp only [spans, Bool.and_eq_true, Bool.or_eq_true, Nat.ble_eq, Nat.beq_eq] at inside
    obtain ⟨start, here | later⟩ := inside
    · have covers : r.covers n = true :=
        Run.covers_iff.mpr ⟨by omega, by omega, by rw [here.1, Nat.mod_one]⟩
      rw [inRuns, if_neg (by omega), covers, Bool.true_or]
    · rw [inRuns, if_neg (by omega), ih later, Bool.or_true]

/-- Whether a run moves slug characters into tables.  Most runs take all they move to one
run of letters, and some move no slug characters; of the others each member is looked
at. -/
def leadsInto (tables : List (List Run)) (r : ShiftRun) : Bool :=
  tables.any (spans r.image.first r.image.last)
    || slugTables.all r.source.avoids
    || (List.range (r.last - r.first + 1)).all (fun i =>
      !r.source.covers (r.first + i)
        || tables.any (spans (r.target + i) (r.target + i))
        || slugTables.all (Run.avoids ⟨r.first + i, r.first + i, 1⟩))

/-- Whether the members of an interval are code points of characters. -/
def isInRange (r : Run) : Bool :=
  Nat.blt r.last 0xD800 || (Nat.blt 0xDFFF r.first && Nat.blt r.last 0x110000)

theorem leadsInto_lowercaseShifts :
    lowercaseShifts.all (fun r => leadsInto slugTables r && isInRange r.image) = true := by
  decide +kernel

theorem isValidChar_of_isInRange {r : Run} {n : Nat} (range : isInRange r = true)
    (member : r.covers n = true) : n.isValidChar := by
  obtain ⟨low, high, _⟩ := Run.covers_iff.mp member
  simp only [isInRange, Bool.or_eq_true, Bool.and_eq_true, Nat.blt_eq] at range
  rcases range with small | ⟨above, below⟩
  · exact .inl (by omega)
  · exact .inr ⟨by omega, by omega⟩

/-- A run that leads into tables does so with each slug character that it moves. -/
theorem inRuns_of_leadsInto {tables : List (List Run)} {r : ShiftRun} {n : Nat}
    (leads : leadsInto tables r = true) (member : r.source.covers n = true)
    (slug : slugTables.any (inRuns n) = true) :
    tables.any (inRuns (r.target + (n - r.first))) = true := by
  obtain ⟨low, high, _⟩ := Run.covers_iff.mp member
  have start : r.first ≤ n := low
  have stop : n ≤ r.last := high
  have inside : ∀ {s : Run}, slugTables.all s.avoids = true → s.covers n = true → False := by
    intro s avoids covers
    obtain ⟨table, known, found⟩ := List.any_eq_true.mp slug
    have missed := inRuns_eq_false_of_avoids (List.all_eq_true.mp avoids table known) covers
    rw [missed] at found
    cases found
  simp only [leadsInto, Bool.or_eq_true] at leads
  rcases leads with (whole | outside) | each
  · obtain ⟨table, known, within⟩ := List.any_eq_true.mp whole
    refine List.any_eq_true.mpr ⟨table, known, inRuns_of_spans within (Nat.le_add_right _ _) ?_⟩
    exact Nat.add_le_add_left (Nat.sub_le_sub_right stop r.first) _
  · exact (inside outside member).elim
  · have here := List.all_eq_true.mp each (n - r.first) (List.mem_range.mpr (by omega))
    rw [Nat.add_sub_cancel' start, member] at here
    simp only [Bool.not_true, Bool.false_or, Bool.or_eq_true] at here
    rcases here with kept | avoids
    · obtain ⟨table, known, within⟩ := List.any_eq_true.mp kept
      exact List.any_eq_true.mpr
        ⟨table, known, inRuns_of_spans within (Nat.le_refl _) (Nat.le_refl _)⟩
    · exact (inside avoids (Run.covers_iff.mpr ⟨Nat.le_refl n, Nat.le_refl n, by simp⟩)).elim

/-- What a run moves stays in range. -/
theorem toNat_ofNat_of_covers {r : ShiftRun} {n : Nat} (range : isInRange r.image = true)
    (inside : r.source.covers n = true) :
    (Char.ofNat (r.target + (n - r.first))).toNat = r.target + (n - r.first) := by
  rw [Char.toNat_ofNat, if_pos (isValidChar_of_isInRange range (ShiftRun.covers_image inside))]

/-- The small forms of a slug character are slug characters. -/
theorem isSlugChar_of_mem_lowercaseChar {c d : Char} (slug : isSlugChar c = true)
    (member : d ∈ lowercaseChar c) : isSlugChar d = true := by
  rcases lowercaseChar_cases member with (rfl | rfl) | ⟨r, run, inside, rfl⟩ | ⟨rfl, _⟩
  · decide
  · decide
  · have leads := List.all_eq_true.mp leadsInto_lowercaseShifts r run
    rw [Bool.and_eq_true] at leads
    rw [isSlugChar_eq] at slug
    rw [isSlugChar_eq, toNat_ofNat_of_covers leads.2 inside]
    exact inRuns_of_leadsInto leads.1 inside slug
  · exact slug

theorem isSlugChar_of_mem_smallForms {c d : Char} (slug : isSlugChar c = true)
    (member : d ∈ smallForms c) : isSlugChar d = true := by
  rcases smallForms_cases member with rfl | rfl | plain
  · decide
  · decide
  · exact isSlugChar_of_mem_lowercaseChar slug plain

/-! ## Parts of slugs -/

/-- Whether a text may stand between the hyphens of a slug. -/
def IsPart (p : List Char) : Prop := IsWord p ∧ ∀ c ∈ p, IsSmall c

/-- Whether a text has the form of a slug. -/
def IsSlug (t : List Char) : Prop := ∃ ps, ps ≠ [] ∧ (∀ p ∈ ps, IsPart p) ∧ t = hyphenate ps

theorem isPart_lowercase {w : List Char} (word : IsWord w) : IsPart (lowercase w) := by
  refine ⟨⟨lowercaseAfter_ne_nil word.1, ?_⟩, ?_⟩
  · intro d member
    obtain ⟨c, inside, form⟩ := exists_of_mem_lowercaseAfter member
    exact isSlugChar_of_mem_smallForms (word.2 c inside) form
  · intro d member
    obtain ⟨c, _, form⟩ := exists_of_mem_lowercaseAfter member
    exact isSmall_of_mem_smallForms form

/-- Lower case of a slug is taken part by part. -/
theorem lowercase_hyphenate (ps : List (List Char)) :
    lowercase (hyphenate ps) = hyphenate (ps.map lowercase) := by
  induction ps with
  | nil => rfl
  | cons p ps ih =>
    cases ps with
    | nil => simp [hyphenate]
    | cons q qs =>
      rw [hyphenate_cons (List.cons_ne_nil q qs), lowercase_hyphen, ih]
      exact (hyphenate_cons (List.cons_ne_nil _ _)).symm

theorem lowercase_hyphenate_of_isSmall {ps : List (List Char)}
    (small : ∀ p ∈ ps, ∀ c ∈ p, IsSmall c) : lowercase (hyphenate ps) = hyphenate ps := by
  have same : ps.map lowercase = ps.map id :=
    List.map_congr_left fun p member => lowercaseAfter_eq_self (small p member) []
  rw [lowercase_hyphenate, same, List.map_id]

/-! ## The form of slugs -/

/-- Whether slugs may be made of the members of a run. -/
def isPlain (r : Run) : Bool :=
  slugTables.any (spans r.first r.last) && r.isApartFrom ⟨0x130, 0x130, 1⟩
    && r.avoids (lowercaseShifts.map ShiftRun.source)

theorem isSmall_of_isPlain {r : Run} (plain : isPlain r = true) {c : Char}
    (member : r.covers c.toNat = true) : isSlugChar c = true ∧ IsSmall c := by
  rw [isPlain, Bool.and_eq_true, Bool.and_eq_true] at plain
  obtain ⟨⟨slug, dotted⟩, capitals⟩ := plain
  constructor
  · obtain ⟨low, high, _⟩ := Run.covers_iff.mp member
    obtain ⟨table, known, within⟩ := List.any_eq_true.mp slug
    rw [isSlugChar_eq]
    exact List.any_eq_true.mpr ⟨table, known, inRuns_of_spans within low high⟩
  · refine isSmall_of_unmoved rfl ?_ (shifted_eq_none (inRuns_eq_false_of_avoids capitals member))
    intro here
    have outside := Run.covers_eq_false_of_isApartFrom dotted member
    rw [here] at outside
    cases outside

/-- Whether a character is a small letter or a digit of ASCII. -/
def isPlainChar (c : Char) : Bool := c.isLower || c.isDigit

theorem covers_of_isPlainChar {c : Char} (plain : isPlainChar c = true) :
    Run.covers ⟨97, 122, 1⟩ c.toNat = true ∨ Run.covers ⟨48, 57, 1⟩ c.toNat = true := by
  rcases Bool.or_eq_true_iff.mp plain with letter | digit
  · simp only [Char.isLower, Bool.and_eq_true, decide_eq_true_eq, ge_iff_le,
      UInt32.le_iff_toNat_le] at letter
    exact .inl (Run.covers_iff.mpr ⟨letter.1, letter.2, Nat.mod_one _⟩)
  · obtain ⟨low, high⟩ := Char.isDigit_iff_toNat.mp digit
    exact .inr (Run.covers_iff.mpr ⟨low, high, Nat.mod_one _⟩)

theorem isSmall_of_isPlainChar {c : Char} (plain : isPlainChar c = true) :
    isSlugChar c = true ∧ IsSmall c := by
  rcases covers_of_isPlainChar plain with letter | digit
  · exact isSmall_of_isPlain (by decide) letter
  · exact isSmall_of_isPlain (by decide) digit

/-- No word starts inside of a text without capitals. -/
theorem unbroken_of_isPlainChar {cs : List Char} (plain : cs.all isPlainChar = true) :
    Unbroken cs := by
  have letters : Run.avoids ⟨97, 122, 1⟩ uppercaseLetterRuns = true := by decide
  have digits : Run.avoids ⟨48, 57, 1⟩ uppercaseLetterRuns = true := by decide
  rw [List.all_eq_true] at plain
  have capital : ∀ c ∈ cs, isUppercaseLetter c = false := by
    intro c member
    rcases covers_of_isPlainChar (plain c member) with letter | digit
    · exact inRuns_eq_false_of_avoids letters letter
    · exact inRuns_eq_false_of_avoids digits digit
  refine (List.pairwise_of_forall_mem_list fun c _ d member => ?_).isChain
  rw [isWordBoundary, capital d member, Bool.and_false]

theorem isPart_of_isPlainChar {cs : List Char} (nonempty : cs ≠ [])
    (plain : cs.all isPlainChar = true) : IsPart cs := by
  rw [List.all_eq_true] at plain
  exact ⟨⟨nonempty, fun c member => (isSmall_of_isPlainChar (plain c member)).1⟩,
    fun c member => (isSmall_of_isPlainChar (plain c member)).2⟩

/-- The digits of a number may stand in a slug, whether decimal or hexadecimal. -/
theorem all_isPlainChar_toDigits {base n : Nat} (large : 1 < base) (small : base ≤ 16) :
    (Nat.toDigits base n).all isPlainChar = true := by
  have each : ∀ d < 16, isPlainChar (Nat.digitChar d) = true := by decide
  refine List.all_eq_true.mpr fun c member => ?_
  obtain ⟨d, below, rfl⟩ := Decimal.exists_of_mem_toDigits large member
  exact each d (Nat.lt_of_lt_of_le below small)

theorem isPart_spellChar (c : Char) : IsPart (spellChar c) := by
  refine isPart_of_isPlainChar (by simp [spellChar]) ?_
  rw [spellChar, List.all_cons, all_isPlainChar_toDigits (by decide) (by decide)]
  rfl

theorem isSlug_spelling (name : List Char) : IsSlug (spelling name) := by
  rw [spelling]
  split
  · refine ⟨[['u', 'n', 'n', 'a', 'm', 'e', 'd']], by simp, ?_, by simp [hyphenate]⟩
    exact List.forall_mem_singleton.mpr (isPart_of_isPlainChar (by simp) (by decide))
  · rename_i shown nonempty
    refine ⟨_, fun nothing => nonempty (List.map_eq_nil_iff.mp nothing), ?_, rfl⟩
    intro p member
    obtain ⟨c, _, rfl⟩ := List.mem_map.mp member
    exact isPart_spellChar c

/-- The slug of a name has the form of a slug, whatever the name is. -/
theorem isSlug_kebabChars (name : List Char) : IsSlug (kebabChars name) := by
  rw [kebabChars]
  split
  · exact isSlug_spelling name
  · rename_i nonempty
    rw [lowercase_hyphenate]
    refine ⟨_, fun nothing => nonempty (List.map_eq_nil_iff.mp nothing), ?_, rfl⟩
    intro p member
    obtain ⟨w, word, rfl⟩ := List.mem_map.mp member
    exact isPart_lowercase (isWord_of_mem_words word).1

/-- A slug with one more part behind it has the form of a slug. -/
theorem isSlug_append {t p : List Char} (slug : IsSlug t) (part : IsPart p) :
    IsSlug (t ++ '-' :: p) := by
  obtain ⟨ps, nonempty, parts, rfl⟩ := slug
  refine ⟨ps ++ [p], by simp, ?_, ?_⟩
  · exact List.forall_mem_append.mpr ⟨parts, List.forall_mem_singleton.mpr part⟩
  · rw [hyphenate_append nonempty (List.cons_ne_nil p []), hyphenate_singleton]

/-! ## The slug of a slug -/

/-- The slug of a slug has the words of its parts. -/
theorem kebabChars_hyphenate {ps : List (List Char)} (nonempty : ps ≠ [])
    (parts : ∀ p ∈ ps, IsPart p) : kebabChars (hyphenate ps) = hyphenate (ps.flatMap words) := by
  have small : ∀ w ∈ ps.flatMap words, ∀ c ∈ w, IsSmall c := by
    intro w member c inside
    obtain ⟨p, part, cut⟩ := List.mem_flatMap.mp member
    have kept : c ∈ (words p).flatten := List.mem_flatten.mpr ⟨w, cut, inside⟩
    rw [flatten_words] at kept
    exact (parts p part).2 c (List.mem_filter.mp kept).1
  rw [kebabChars, words_hyphenate]
  split
  · rename_i nothing
    obtain ⟨p, ps, rfl⟩ := List.exists_cons_of_ne_nil nonempty
    exact absurd (List.append_eq_nil_iff.mp nothing).1 (words_ne_nil (parts p List.mem_cons_self).1)
  · exact lowercase_hyphenate_of_isSmall small

/-- A text in the form of a slug is its own slug just if no word starts inside
of its parts. -/
theorem kebabChars_eq_self_iff {t : List Char} (slug : IsSlug t) :
    kebabChars t = t ↔ Unbroken t := by
  obtain ⟨ps, nonempty, parts, rfl⟩ := slug
  have whole : ∀ p ∈ ps, IsWord p := fun p member => (parts p member).1
  rw [kebabChars_hyphenate nonempty parts, unbroken_hyphenate, ← flatMap_words_eq_self whole]
  refine ⟨fun same => ?_, congrArg hyphenate⟩
  refine hyphenate_injective ?_ nonempty ?_ ?_ same
  · obtain ⟨p, ps, rfl⟩ := List.exists_cons_of_ne_nil nonempty
    exact fun nothing =>
      words_ne_nil (parts p List.mem_cons_self).1 (List.append_eq_nil_iff.mp nothing).1
  · intro w member
    obtain ⟨p, _, cut⟩ := List.mem_flatMap.mp member
    exact hyphen_not_mem_of_isWord (isWord_of_mem_words cut).1
  · exact fun p member => hyphen_not_mem_of_isWord (whole p member)

end DesignTokens.Naming
