import DesignTokens.Proofs.Naming.Form
import DesignTokens.Proofs.Naming.Hyphens

/-!
# Capitals of identifiers

The hyphens of a slug are not in its camel case identifier, and the words behind them start
with a capital instead.  Upper case can be taken back, so that the capitals tell where words
start.  They tell all of them just if each word has a first character with a capital; where it
has none, as a digit has none, nothing of the hyphen is left, and different slugs may come to
the same identifier.

Key definitions:

* `shown` is what an identifier shows of a slug.
* `StartsWithCapital` tells the words whose start is shown.
-/

namespace DesignTokens.Naming

open DesignTokens.Text

/-! ## Upper case taken back -/

/-- Whether all members of a run are in another one. -/
def containsRun (r s : Run) : Bool :=
  Nat.ble r.first s.first && Nat.ble s.last r.last && Nat.beq ((s.first - r.first) % r.step) 0
    && (Nat.beq (s.step % r.step) 0 || Nat.beq s.first s.last)

theorem covers_of_containsRun {r s : Run} {n : Nat} (contains : containsRun r s = true)
    (member : s.covers n = true) : r.covers n = true := by
  simp only [containsRun, Bool.and_eq_true, Bool.or_eq_true, Nat.ble_eq, Nat.beq_eq] at contains
  obtain ⟨⟨⟨start, stop⟩, aligned⟩, steps⟩ := contains
  obtain ⟨low, high, even⟩ := Run.covers_iff.mp member
  refine Run.covers_iff.mpr ⟨start.trans low, high.trans stop, ?_⟩
  have inside : (n - s.first) % r.step = 0 := by
    rcases steps with multiple | single
    · exact Nat.mod_eq_zero_of_dvd
        ((Nat.dvd_of_mod_eq_zero multiple).trans (Nat.dvd_of_mod_eq_zero even))
    · have first : n - s.first = 0 := by omega
      rw [first, Nat.zero_mod]
  have parts : n - r.first = (s.first - r.first) + (n - s.first) := by omega
  rw [parts, Nat.add_mod, aligned, inside, Nat.add_zero, Nat.zero_mod]

/-- Where the first member of a run goes, if one run of a sorted list moves all of them. -/
def shiftedRun? (s : Run) : List ShiftRun → Option Nat
  | [] => none
  | r :: rs =>
    if Nat.blt s.first r.first then none
    else if s.isApartFrom r.source then shiftedRun? s rs
    else if containsRun r.source s then some (r.target + (s.first - r.first))
    else none

/-- The members of a run that is moved keep their distances. -/
theorem shifted_of_shiftedRun? {s : Run} {rs : List ShiftRun} {t n : Nat}
    (moved : shiftedRun? s rs = some t) (member : s.covers n = true) :
    shifted n rs = some (t + (n - s.first)) := by
  obtain ⟨low, -, -⟩ := Run.covers_iff.mp member
  induction rs with
  | nil => cases moved
  | cons r rs ih =>
    rw [shiftedRun?] at moved
    split at moved
    · cases moved
    rename_i start
    rw [Nat.blt_eq, Nat.not_lt] at start
    rw [shifted, if_neg (Nat.not_lt.mpr (start.trans low))]
    split at moved
    · rename_i apart
      rw [Run.covers_eq_false_of_isApartFrom apart member, if_neg Bool.false_ne_true, ih moved]
    split at moved
    · rename_i contains
      cases moved
      rw [if_pos (covers_of_containsRun contains member)]
      exact congrArg some (by omega)
    · cases moved

/-- Whether lower case takes the members of a run to characters that upper case takes back to
them, or leaves all of them as they are. -/
def isRestored (s : Run) : Bool :=
  isInRange s && s.isApartFrom ⟨0x130, 0x130, 1⟩ &&
    match shiftedRun? s lowercaseShifts with
    | some t =>
      let small : Run := ⟨t, t + (s.last - s.first), s.step⟩
      isInRange small && shiftedRun? small uppercaseShifts == some s.first
        && uppercaseExpansions.all (fun e => !small.covers e.1)
    | none => s.avoids (lowercaseShifts.map ShiftRun.source)

theorem isRestored_uppercaseTables :
    uppercaseShifts.all (fun r => isRestored r.image) = true ∧
    uppercaseExpansions.all (fun e => e.2.all (fun n => isRestored ⟨n, n, 1⟩)) = true := by
  decide +kernel

/-- Whether upper case takes the small form of a character back to it. -/
def IsCapital (d : Char) : Prop := ∃ e, lowercaseChar d = [e] ∧ uppercaseChar e = [d]

theorem isSmall_or_isCapital_of_isRestored {s : Run} {n : Nat} (restored : isRestored s = true)
    (member : s.covers n = true) : IsSmall (Char.ofNat n) ∨ IsCapital (Char.ofNat n) := by
  rw [isRestored, Bool.and_eq_true, Bool.and_eq_true] at restored
  obtain ⟨⟨range, dotted⟩, forms⟩ := restored
  have code : (Char.ofNat n).toNat = n := by
    rw [Char.toNat_ofNat, if_pos (isValidChar_of_isInRange range member)]
  have plain : n ≠ 0x130 := by
    rintro rfl
    have outside := Run.covers_eq_false_of_isApartFrom dotted member
    simp [Run.covers] at outside
  split at forms
  · rename_i t moved
    simp only [Bool.and_eq_true, beq_iff_eq] at forms
    obtain ⟨⟨range', back⟩, single⟩ := forms
    -- The small form of the member is a member of the run of small forms.
    let m := t + (n - s.first)
    have member' : Run.covers ⟨t, t + (s.last - s.first), s.step⟩ m = true := by
      obtain ⟨low, high, even⟩ := Run.covers_iff.mp member
      refine Run.covers_iff.mpr ⟨Nat.le_add_right _ _, Nat.add_le_add_left (by omega) t, ?_⟩
      show (t + (n - s.first) - t) % s.step = 0
      rw [Nat.add_sub_cancel_left, even]
    have code' : (Char.ofNat m).toNat = m := by
      rw [Char.toNat_ofNat, if_pos (isValidChar_of_isInRange range' member')]
    have alone : uppercaseExpansions.lookup m = none := by
      refine List.lookup_eq_none_iff.mpr fun e known => ?_
      have outside := List.all_eq_true.mp single e known
      refine bne_iff_ne.mpr fun same => ?_
      rw [← same, member'] at outside
      cases outside
    refine .inr ⟨Char.ofNat m, ?_, ?_⟩
    · rw [lowercaseChar, code, if_neg plain, shifted_of_shiftedRun? moved member]
    · have low : s.first ≤ n := (Run.covers_iff.mp member).1
      have origin : s.first + (m - t) = n := by omega
      rw [uppercaseChar, code', alone, shifted_of_shiftedRun? back member']
      show [Char.ofNat (s.first + (m - t))] = _
      rw [origin]
  · rename_i unmoved
    exact .inl (isSmall_of_unmoved code plain
      (shifted_eq_none (inRuns_eq_false_of_avoids forms member)))

/-- The forms of small characters in upper case can be told from small ones, and taken back. -/
theorem isSmall_or_isCapital {c d : Char} (small : IsSmall c) (member : d ∈ uppercaseChar c) :
    IsSmall d ∨ IsCapital d := by
  obtain ⟨shifts, expansions⟩ := isRestored_uppercaseTables
  rcases uppercaseChar_cases member with ⟨e, known, n, form, rfl⟩ | ⟨r, run, inside, rfl⟩ | rfl
  · exact isSmall_or_isCapital_of_isRestored
      (List.all_eq_true.mp (List.all_eq_true.mp expansions e known) n form)
      (Run.covers_iff.mpr ⟨Nat.le_refl n, Nat.le_refl n, Nat.mod_one _⟩)
  · exact isSmall_or_isCapital_of_isRestored (List.all_eq_true.mp shifts r run)
      (ShiftRun.covers_image inside)
  · exact .inl small

/-! ## What identifiers show -/

/-- A capital shows the start of a word, and any other character just itself. -/
def shownChar (d : Char) : List Char := if IsSmall d then [d] else ' ' :: lowercaseChar d

/-- What is shown of a word whose first character is in upper case. -/
def shownWord : List Char → List Char
  | [] => []
  | c :: cs => (uppercaseChar c).flatMap shownChar ++ cs

/-- What is shown of words that are run together. -/
def shownWords : List (List Char) → List Char
  | [] => []
  | w :: ws => w ++ ws.flatMap shownWord

/-- What the camel case identifier of a name shows of its slug: the words, with a blank in front
of each capital. -/
def shown (name : String) : String :=
  String.ofList (shownWords (slugWords (kebabChars name.toList)))

theorem capitalize_of_isSmall {c : Char} {cs : List Char} (small : ∀ d ∈ cs, IsSmall d) :
    capitalize (c :: cs) = uppercaseChar c ++ cs := by
  rw [capitalize, lowercase, lowercaseAfter_eq_self small]

theorem flatMap_shownChar_of_isSmall {cs : List Char} (small : ∀ c ∈ cs, IsSmall c) :
    cs.flatMap shownChar = cs := by
  have each : ∀ c ∈ cs, shownChar c = [c] := fun c member => if_pos (small c member)
  rw [List.flatMap_congr each, List.flatMap_singleton']

theorem flatMap_shownChar_pascalWords {ws : List (List Char)}
    (small : ∀ w ∈ ws, ∀ c ∈ w, IsSmall c) :
    (pascalWords ws).flatMap shownChar = ws.flatMap shownWord := by
  rw [pascalWords, List.flatMap_assoc]
  refine List.flatMap_congr fun w member => ?_
  cases w with
  | nil => rfl
  | cons c cs =>
    have others := (List.forall_mem_cons.mp (small _ member)).2
    rw [capitalize_of_isSmall others, List.flatMap_append, flatMap_shownChar_of_isSmall others,
      shownWord]

/-- An identifier shows nothing but what its slug has to be shown. -/
theorem flatMap_shownChar_camelWords {ws : List (List Char)}
    (small : ∀ w ∈ ws, ∀ c ∈ w, IsSmall c) : (camelWords ws).flatMap shownChar = shownWords ws := by
  cases ws with
  | nil => rfl
  | cons w ws =>
    obtain ⟨first, others⟩ := List.forall_mem_cons.mp small
    rw [camelWords, lowercase, lowercaseAfter_eq_self first, List.flatMap_append,
      flatMap_shownChar_of_isSmall first, flatMap_shownChar_pascalWords others, shownWords]

/-- Whether a character can be told from what is shown of it. -/
def IsTold (d : Char) : Prop := d ≠ ' ' ∧ (IsSmall d ∨ IsCapital d)

theorem shownChar_cases {d : Char} (told : IsTold d) :
    (shownChar d = [d] ∧ d ≠ ' ') ∨ ∃ e, shownChar d = [' ', e] ∧ uppercaseChar e = [d] := by
  obtain ⟨shown, forms⟩ := told
  by_cases small : IsSmall d
  · exact .inl ⟨if_pos small, shown⟩
  · obtain ⟨e, lower, upper⟩ := forms.resolve_left small
    exact .inr ⟨e, by rw [shownChar, if_neg small, lower], upper⟩

/-- A text is told by what is shown of it. -/
theorem eq_of_flatMap_shownChar {s t : List Char} (left : ∀ d ∈ s, IsTold d)
    (right : ∀ d ∈ t, IsTold d) (same : s.flatMap shownChar = t.flatMap shownChar) : s = t := by
  induction s generalizing t with
  | nil =>
    cases t with
    | nil => rfl
    | cons d t =>
      rcases shownChar_cases (right d List.mem_cons_self) with ⟨form, -⟩ | ⟨e, form, -⟩ <;>
        simp [form] at same
  | cons c s ih =>
    obtain ⟨here, rest⟩ := List.forall_mem_cons.mp left
    cases t with
    | nil =>
      rcases shownChar_cases here with ⟨form, -⟩ | ⟨e, form, -⟩ <;> simp [form] at same
    | cons d t =>
      obtain ⟨here', rest'⟩ := List.forall_mem_cons.mp right
      rw [List.flatMap_cons, List.flatMap_cons] at same
      rcases shownChar_cases here with ⟨form, shown⟩ | ⟨e, form, upper⟩ <;>
        rcases shownChar_cases here' with ⟨form', shown'⟩ | ⟨e', form', upper'⟩ <;>
        rw [form, form'] at same
      · obtain ⟨rfl, later⟩ := List.cons.inj same
        rw [ih rest rest' later]
      · exact absurd (List.cons.inj same).1 shown
      · exact absurd (List.cons.inj same).1.symm shown'
      · obtain ⟨rfl, later⟩ := List.cons.inj (List.cons.inj same).2
        obtain ⟨rfl, -⟩ := List.cons.inj (upper.symm.trans upper')
        rw [ih rest rest' later]

/-! ## Identifiers with the same text -/

/-- The underscore in front of an identifier is its only one. -/
theorem filter_guarded {t : List Char} (absent : '_' ∉ t) :
    (guarded t).filter (· ≠ '_') = t := by
  have kept : t.filter (· ≠ '_') = t :=
    List.filter_eq_self.mpr fun c member => decide_eq_true fun same => absent (same ▸ member)
  unfold guarded
  split
  · rfl
  · split
    · exact kept
    · rw [List.filter_cons_of_neg (by simp), kept]

/-- The characters of an identifier are those of its words and their capitals. -/
theorem exists_of_mem_camelWords {ws : List (List Char)} (small : ∀ w ∈ ws, ∀ c ∈ w, IsSmall c)
    {d : Char} (member : d ∈ camelWords ws) :
    ∃ w ∈ ws, ∃ c ∈ w, d = c ∨ d ∈ uppercaseChar c := by
  cases ws with
  | nil => cases member
  | cons v ws =>
    obtain ⟨first, others⟩ := List.forall_mem_cons.mp small
    rw [camelWords, lowercase, lowercaseAfter_eq_self first, List.mem_append] at member
    rcases member with here | later
    · exact ⟨v, List.mem_cons_self, d, here, .inl rfl⟩
    · obtain ⟨w, word, inside⟩ := List.mem_flatMap.mp later
      refine ⟨w, List.mem_cons_of_mem v word, ?_⟩
      cases w with
      | nil => cases inside
      | cons c cs =>
        rw [capitalize_of_isSmall (List.forall_mem_cons.mp (others _ word)).2,
          List.mem_append] at inside
        rcases inside with capital | kept
        · exact ⟨c, List.mem_cons_self, .inr capital⟩
        · exact ⟨d, List.mem_cons_of_mem c kept, .inl rfl⟩

theorem isTold_of_mem_camelWords {ws : List (List Char)} (small : ∀ w ∈ ws, ∀ c ∈ w, IsSmall c)
    (known : ∀ w ∈ ws, ∀ c ∈ w, isSlugChar c = true ∨ c = '-') {d : Char}
    (member : d ∈ camelWords ws) : IsTold d ∧ d ≠ '_' := by
  have named : isNameChar d = true := isNameChar_of_mem_camelWords known d member
  obtain ⟨w, word, c, inside, form⟩ := exists_of_mem_camelWords small member
  refine ⟨⟨?_, ?_⟩, ?_⟩
  · rintro rfl
    exact absurd named (by decide)
  · rcases form with rfl | capital
    · exact .inl (small w word d inside)
    · exact isSmall_or_isCapital (small w word c inside) capital
  · rintro rfl
    have slug : '_' ≠ c := by
      rintro rfl
      exact absurd (known w word '_' inside) (by decide)
    rcases isCapitalForm_of_mem_uppercaseChar (form.resolve_left slug) with same | capital
    · exact slug same
    · cases capital

section Names

variable {a b : String}

/-- The words of slugs have small characters only. -/
theorem isSmall_of_mem_words {name w : List Char} (word : w ∈ slugWords (kebabChars name)) :
    ∀ c ∈ w, IsSmall c := fun _ member =>
  isSmall_of_isSlug (isSlug_kebabChars name) (mem_of_mem_slugWords word member)

theorem isNameChar_of_mem_camel (name : String) :
    ∀ c ∈ (camel name).toList, isNameChar c = true := by
  rw [camel, String.toList_ofList]
  exact forall_mem_guarded (by decide)
    (isNameChar_of_mem_camelWords fun _ word => mem_words_kebabChars word)

/-- Two names have the same identifier just if the same is shown of their slugs. -/
theorem camel_eq_iff_shown_eq : camel a = camel b ↔ shown a = shown b := by
  let wordsOf (name : String) := slugWords (kebabChars name.toList)
  have small (name : String) : ∀ w ∈ wordsOf name, ∀ c ∈ w, IsSmall c :=
    fun _ word => isSmall_of_mem_words word
  have told (name : String) : ∀ d ∈ camelWords (wordsOf name), IsTold d ∧ d ≠ '_' :=
    fun _ member => isTold_of_mem_camelWords (small name) (fun _ word => mem_words_kebabChars word)
      member
  have plain (name : String) :
      (camel name).toList.filter (· ≠ '_') = camelWords (wordsOf name) := by
    rw [camel, String.toList_ofList]
    exact filter_guarded fun member => (told name '_' member).2 rfl
  have shows (name : String) :
      (shown name).toList = (camelWords (wordsOf name)).flatMap shownChar := by
    rw [shown, String.toList_ofList]
    exact (flatMap_shownChar_camelWords (small name)).symm
  constructor
  · intro same
    rw [← String.toList_inj, shows, shows, ← plain, ← plain, same]
  · intro same
    have texts : camelWords (wordsOf a) = camelWords (wordsOf b) := by
      refine eq_of_flatMap_shownChar (fun d member => (told a d member).1)
        (fun d member => (told b d member).1) ?_
      rw [← shows, ← shows, same]
    exact congrArg (fun text => String.ofList (guarded text)) texts

end Names

/-! ## Words that are told apart -/

theorem splitClusters_ne_nil (current : List Char) (gs : List (List Char)) :
    splitClusters current gs ≠ [] := by
  cases gs with
  | nil => exact List.cons_ne_nil _ _
  | cons g gs =>
    rw [splitClusters]
    split
    · exact List.cons_ne_nil _ _
    · exact splitClusters_ne_nil (current ++ g) gs

theorem hyphenate_splitClusters (current : List Char) (gs : List (List Char)) :
    hyphenate (splitClusters current gs) = current ++ gs.flatten := by
  induction gs generalizing current with
  | nil => simp [splitClusters, hyphenate_singleton]
  | cons g gs ih =>
    rw [splitClusters]
    split
    · rename_i alone
      rw [hyphenate_cons (splitClusters_ne_nil [] gs), ih, alone]
      rfl
    · rw [ih, List.flatten_cons, List.append_assoc]

theorem nil_mem_splitOn_hyphenate {ps : List (List Char)} (member : [] ∈ ps) :
    [] ∈ (hyphenate ps).splitOn '-' := by
  induction ps with
  | nil => cases member
  | cons p ps ih =>
    cases ps with
    | nil =>
      cases List.mem_singleton.mp member
      rw [hyphenate_singleton]
      simp
    | cons q qs =>
      rw [hyphenate_cons (List.cons_ne_nil q qs), List.splitOn_append_cons_self, List.mem_append]
      rcases List.mem_cons.mp member with rfl | later
      · exact .inl (by simp)
      · exact .inr (ih later)

/-- A slug has nothing but its words and the hyphens between them. -/
theorem hyphenate_slugWords {t : List Char} (slug : IsSlug t) : hyphenate (slugWords t) = t := by
  have whole : hyphenate (splitClusters [] (clusters t)) = t := by
    rw [hyphenate_splitClusters, List.nil_append, flatten_clusters]
  have nonempty : [] ∉ splitClusters [] (clusters t) := fun member =>
    nil_not_mem_splitOn slug (whole ▸ nil_mem_splitOn_hyphenate member)
  have kept : slugWords t = splitClusters [] (clusters t) :=
    List.filter_eq_self.mpr fun w member => by
      cases w with
      | nil => exact absurd member nonempty
      | cons c cs => rfl
  rw [kept, whole]

/-- Whether a word starts with a small letter that has a capital to itself. -/
def StartsWithCapital : List Char → Prop
  | [] => False
  | c :: _ => ∃ d, uppercaseChar c = [d] ∧ ¬ IsSmall d ∧ lowercaseChar d = [c]

/-- Whether all words of a slug but the first one start with such a letter. -/
def HasCapitals (slug : String) : Prop := ∀ w ∈ (slugWords slug.toList).tail, StartsWithCapital w

theorem shownWord_of_startsWithCapital {w : List Char} (capital : StartsWithCapital w) :
    shownWord w = ' ' :: w := by
  cases w with
  | nil => exact capital.elim
  | cons c cs =>
    obtain ⟨d, upper, large, lower⟩ := capital
    rw [shownWord, upper, List.flatMap_singleton, shownChar, if_neg large, lower]
    rfl

/-- Between words that start with capitals there are blanks. -/
theorem shownWords_of_startsWithCapital {ws : List (List Char)}
    (capitals : ∀ w ∈ ws.tail, StartsWithCapital w) :
    shownWords ws = List.intercalate [' '] ws := by
  cases ws with
  | nil => rfl
  | cons w ws =>
    rw [shownWords]
    induction ws generalizing w with
    | nil => simp
    | cons v ws ih =>
      obtain ⟨first, others⟩ := List.forall_mem_cons.mp capitals
      rw [List.flatMap_cons, shownWord_of_startsWithCapital first, List.cons_append, ih v others]
      simp [List.intercalate]

/-- Where all words start with capitals, the slug can be told from what is shown of it. -/
theorem kebab_eq_of_shown_eq {a b : String} (left : HasCapitals (kebab a))
    (right : HasCapitals (kebab b)) (same : shown a = shown b) : kebab a = kebab b := by
  rw [HasCapitals, kebab, String.toList_ofList] at left right
  have blank (name : String) : ∀ w ∈ slugWords (kebabChars name.toList), ' ' ∉ w :=
    fun w word member => absurd (mem_words_kebabChars word ' ' member) (by decide)
  have nonempty (name : String) : slugWords (kebabChars name.toList) ≠ [] := fun nothing => by
    have slug := isSlug_kebabChars name.toList
    have whole := hyphenate_slugWords slug
    rw [nothing] at whole
    exact (hasSlugForm_of_isSlug slug).nonempty whole.symm
  have texts : shownWords (slugWords (kebabChars a.toList)) =
      shownWords (slugWords (kebabChars b.toList)) := by
    rw [← String.toList_inj, shown, shown, String.toList_ofList, String.toList_ofList] at same
    exact same
  rw [shownWords_of_startsWithCapital left, shownWords_of_startsWithCapital right] at texts
  have words : slugWords (kebabChars a.toList) = slugWords (kebabChars b.toList) := by
    rw [← List.splitOn_intercalate ' ' (blank a) (nonempty a), texts,
      List.splitOn_intercalate ' ' (blank b) (nonempty b)]
  rw [kebab, kebab, ← hyphenate_slugWords (isSlug_kebabChars a.toList), words,
    hyphenate_slugWords (isSlug_kebabChars b.toList)]

end DesignTokens.Naming
