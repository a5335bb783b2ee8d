import DesignTokens.Proofs.Text.Lines
import Mathlib.Data.List.DropRight

/-!
# Reading written texts

What stands in a text is found by how its lines start.  Blanks at the ends of
lines and empty lines are of no account, so that the same is found in a tidy
text.

Key definition: `Text.restsBehind`.
-/

namespace DesignTokens.Text

/-! ## Written lines -/

theorem unlines_append (lines more : List String) :
    unlines (lines ++ more) = unlines lines ++ unlines more := by
  rw [unlines, List.map_append, String.join_append]
  rfl

theorem unlines_singleton (line : String) : unlines [line] = line ++ "\n" := by
  simp [unlines]

theorem unlines_of_ne_nil {lines : List String} (given : lines ≠ []) :
    unlines lines = "\n".intercalate lines ++ "\n" := by
  induction lines with
  | nil => exact absurd rfl given
  | cons line lines ih =>
    cases lines with
    | nil => simp [unlines]
    | cons next lines =>
      have rest := ih (List.cons_ne_nil _ _)
      rw [String.intercalate_cons_cons, String.append_assoc, ← rest]
      simp [unlines]

theorem splitLines_ne_nil (cs : List Char) : splitLines cs ≠ [] := by
  cases cs with
  | nil => exact List.cons_ne_nil _ _
  | cons c cs =>
    rw [splitLines]
    split
    · exact List.cons_ne_nil _ _
    · cases splitLines cs <;> exact List.cons_ne_nil _ _

theorem lineFeed_not_mem_of_mem_splitLines {cs line : List Char} (member : line ∈ splitLines cs) :
    '\n' ∉ line := by
  induction cs generalizing line with
  | nil =>
    rw [splitLines, List.mem_singleton] at member
    subst member
    exact List.not_mem_nil
  | cons c cs ih =>
    rw [splitLines] at member
    split at member
    · rcases List.mem_cons.mp member with rfl | later
      · exact List.not_mem_nil
      · exact ih later
    · rename_i other
      cases lines : splitLines cs with
      | nil => exact absurd lines (splitLines_ne_nil cs)
      | cons l ls =>
        rw [lines, extendLine] at member
        rcases List.mem_cons.mp member with rfl | later
        · rw [List.mem_cons, not_or]
          exact ⟨Ne.symm other, ih (lines ▸ List.mem_cons_self)⟩
        · exact ih (lines ▸ List.mem_cons_of_mem _ later)

/-! ## Tidy lines -/

theorem isPrefix_trimEnd (line : List Char) : trimEnd line <+: line :=
  List.rdropWhile_prefix isBlank line

theorem trimEnd_trimEnd (line : List Char) : trimEnd (trimEnd line) = trimEnd line :=
  List.rdropWhile_idempotent isBlank line

section Tidy

variable {α : Type} {read : List Char → Option α}

theorem filterMap_squeeze (empty : read [] = none) (gap : Bool) (lines : List (List Char)) :
    (squeeze gap lines).filterMap read = lines.filterMap read := by
  induction lines generalizing gap with
  | nil => rfl
  | cons line lines ih =>
    -- Empty lines are dropped or added, and nothing is read from either.
    rw [squeeze]
    split
    · rename_i none
      rw [List.isEmpty_iff.mp none, ih, List.filterMap_cons_none empty]
    · split
      · rw [List.filterMap_cons_none empty, List.filterMap_cons, ih, List.filterMap_cons]
      · rw [List.filterMap_cons, ih, List.filterMap_cons]

/-- Tidying drops empty lines only. -/
theorem filterMap_tidyLines (empty : read [] = none) (lines : List (List Char)) :
    (tidyLines lines).filterMap read = (lines.map trimEnd).filterMap read := by
  rw [tidyLines, filterMap_squeeze empty]
  induction lines.map trimEnd with
  | nil => rfl
  | cons line lines ih =>
    rw [List.dropWhile_cons]
    split
    · rename_i none
      rw [ih, List.isEmpty_iff.mp none, List.filterMap_cons_none empty]
    · rfl

theorem mem_of_mem_squeeze {gap : Bool} {lines : List (List Char)} {line : List Char}
    (member : line ∈ squeeze gap lines) : line = [] ∨ line ∈ lines := by
  induction lines generalizing gap with
  | nil => cases member
  | cons first lines ih =>
    have later {gap : Bool} (member : line ∈ squeeze gap lines) :
        line = [] ∨ line ∈ first :: lines :=
      (ih member).imp_right (List.mem_cons_of_mem _)
    rw [squeeze] at member
    split at member
    · exact later member
    · split at member
      · rcases List.mem_cons.mp member with rfl | member
        · exact .inl rfl
        · rcases List.mem_cons.mp member with rfl | member
          · exact .inr List.mem_cons_self
          · exact later member
      · rcases List.mem_cons.mp member with rfl | member
        · exact .inr List.mem_cons_self
        · exact later member

theorem lineFeed_not_mem_of_mem_tidyLines {lines : List (List Char)}
    (single : ∀ l ∈ lines, '\n' ∉ l) {line : List Char} (member : line ∈ tidyLines lines) :
    '\n' ∉ line := by
  rcases mem_of_mem_squeeze member with rfl | member
  · exact List.not_mem_nil
  · obtain ⟨l, inside, rfl⟩ := List.mem_map.mp ((List.dropWhile_suffix _).mem member)
    exact fun there => single l inside ((isPrefix_trimEnd l).mem there)

end Tidy

/-! ## Single lines -/

/-- Whether a text stands on one line. -/
def IsSingle (text : String) : Prop := '\n' ∉ text.toList

instance (text : String) : Decidable (IsSingle text) :=
  inferInstanceAs (Decidable ('\n' ∉ text.toList))

theorem IsSingle.append {s t : String} (first : IsSingle s) (second : IsSingle t) :
    IsSingle (s ++ t) := by
  rw [IsSingle, String.toList_append, List.mem_append, not_or]
  exact ⟨first, second⟩

/-- Whether a text is a line that does not start in some way. -/
def IsOther (start line : String) : Prop := IsSingle line ∧ ¬ start.toList <+: line.toList

instance (start line : String) : Decidable (IsOther start line) :=
  inferInstanceAs (Decidable (IsSingle line ∧ ¬ start.toList <+: line.toList))

/-- Whether the start of a line is different from some other start already. -/
structure HasLeft (start text : String) : Prop where
  single : IsSingle text
  notBehind : ¬ start.toList <+: text.toList
  notBefore : ¬ text.toList <+: start.toList

instance (start text : String) : Decidable (HasLeft start text) :=
  decidable_of_iff (IsSingle text ∧ ¬ start.toList <+: text.toList ∧ ¬ text.toList <+: start.toList)
    ⟨fun ⟨single, behind, before⟩ => ⟨single, behind, before⟩,
      fun left => ⟨left.single, left.notBehind, left.notBefore⟩⟩

theorem HasLeft.append {start s t : String} (left : HasLeft start s) (single : IsSingle t) :
    HasLeft start (s ++ t) where
  single := left.single.append single
  notBehind there := by
    -- Of two starts of one text one is a start of the other.
    rw [String.toList_append] at there
    rcases List.prefix_or_prefix_of_prefix there (List.prefix_append _ _) with behind | before
    · exact left.notBehind behind
    · exact left.notBefore before
  notBefore there := by
    rw [String.toList_append] at there
    exact left.notBefore ((List.prefix_append _ _).trans there)

theorem HasLeft.isOther {start text : String} (left : HasLeft start text) : IsOther start text :=
  ⟨left.single, left.notBehind⟩

/-! ## Lines that start in some way -/

/-- What stands in a line behind its start.  Blanks at the end of the line do not
count. -/
def restBehind? (start : String) (line : List Char) : Option String :=
  (start.toList.isPrefixOf? (trimEnd line)).map String.ofList

/-- What stands behind the start of each line of a text that starts in some way. -/
def restsBehind (start text : String) : List String :=
  (splitLines text.toList).filterMap (restBehind? start)

variable {start : String}

theorem restBehind?_eq_none {line : List Char} (other : ¬ start.toList <+: line) :
    restBehind? start line = none := by
  rw [restBehind?, Option.map_eq_none_iff, Option.eq_none_iff_forall_ne_some]
  intro rest found
  rw [List.isPrefixOf?_eq_some_iff_append_eq] at found
  exact other (List.IsPrefix.trans ⟨rest, found⟩ (isPrefix_trimEnd line))

theorem restBehind?_append {rest : String} (tidy : IsTidyLine (start ++ rest).toList) :
    restBehind? start (start ++ rest).toList = some rest := by
  have found : start.toList.isPrefixOf? (start ++ rest).toList = some rest.toList :=
    List.isPrefixOf?_eq_some_iff_append_eq.mpr (by simp)
  rw [restBehind?, (trimEnd_of_isTidyLine tidy).1, found, Option.map_some, String.ofList_toList]

theorem restBehind?_nil (given : start ≠ "") : restBehind? start [] = none := by
  refine restBehind?_eq_none fun empty => given ?_
  rw [← String.toList_eq_nil_iff]
  exact List.prefix_nil.mp empty

/-- A tidy text has the same lines. -/
theorem restsBehind_tidy (given : start ≠ "") (text : String) :
    restsBehind start (tidy text) = restsBehind start text := by
  have single : ∀ l ∈ tidyLines (splitLines text.toList), '\n' ∉ l := fun l member =>
    lineFeed_not_mem_of_mem_tidyLines (fun _ inside => lineFeed_not_mem_of_mem_splitLines inside)
      member
  -- The blanks that are dropped at the end of a line are dropped by the reader as well.
  have trimmed : (restBehind? start ∘ trimEnd : List Char → Option String) = restBehind? start := by
    funext line
    rw [Function.comp_apply, restBehind?, restBehind?, trimEnd_trimEnd]
  have empty := restBehind?_nil given
  rw [restsBehind, tidy, String.toList_ofList, tidyChars, splitLines_unlineChars single,
    List.filterMap_append, filterMap_tidyLines empty, List.filterMap_map, trimmed,
    List.filterMap_cons_none empty, List.filterMap_nil, List.append_nil]
  rfl

/-- Lines that start in some way are found in their order among others that do not. -/
theorem restsBehind_unlines {before after rests : List String} (given : start ≠ "")
    (outside : ∀ l ∈ before ++ after, IsOther start l)
    (inside : ∀ rest ∈ rests, IsSingle (start ++ rest) ∧ IsTidyLine (start ++ rest).toList) :
    restsBehind start (unlines (before ++ rests.map (start ++ ·) ++ after)) = rests := by
  rw [List.forall_mem_append] at outside
  have single : ∀ l ∈ (before ++ rests.map (start ++ ·) ++ after).map String.toList, '\n' ∉ l := by
    refine List.forall_mem_map.mpr (List.forall_mem_append.mpr ⟨List.forall_mem_append.mpr
      ⟨fun l member => (outside.1 l member).1, ?_⟩, fun l member => (outside.2 l member).1⟩)
    exact List.forall_mem_map.mpr fun rest member => (inside rest member).1
  have others {lines : List String} (other : ∀ l ∈ lines, IsOther start l) :
      (lines.map String.toList).filterMap (restBehind? start) = [] := by
    rw [List.filterMap_eq_nil_iff]
    exact List.forall_mem_map.mpr fun l member => restBehind?_eq_none (other l member).2
  have found : ((rests.map (start ++ ·)).map String.toList).filterMap (restBehind? start)
      = rests := by
    rw [List.filterMap_map, List.filterMap_map]
    refine (List.filterMap_congr fun rest member => ?_).trans List.filterMap_some
    exact restBehind?_append (inside rest member).2
  rw [restsBehind, toList_unlines, splitLines_unlineChars single, List.filterMap_append,
    List.map_append, List.map_append, List.filterMap_append, List.filterMap_append,
    others outside.1, others outside.2, found, List.filterMap_cons_none (restBehind?_nil given)]
  simp

theorem restsBehind_unlines_eq_nil {lines : List String} (given : start ≠ "")
    (outside : ∀ l ∈ lines, IsOther start l) : restsBehind start (unlines lines) = [] := by
  have found : restsBehind start (unlines (lines ++ [].map (start ++ ·) ++ [])) = [] :=
    restsBehind_unlines given (by rwa [List.append_nil]) (List.forall_mem_nil _)
  rwa [List.map_nil, List.append_nil, List.append_nil] at found

theorem restsBehind_unlines_singleton {before after : List String} {rest : String}
    (given : start ≠ "") (outside : ∀ l ∈ before ++ after, IsOther start l)
    (single : IsSingle (start ++ rest)) (tidy : IsTidyLine (start ++ rest).toList) :
    restsBehind start (unlines (before ++ [start ++ rest] ++ after)) = [rest] := by
  have found : restsBehind start (unlines (before ++ [rest].map (start ++ ·) ++ after)) = [rest] :=
    restsBehind_unlines given outside (List.forall_mem_singleton.mpr ⟨single, tidy⟩)
  rwa [List.map_singleton] at found

/-- What stands in front of the end of a text. -/
def before? (ending text : String) : Option String :=
  (ending.toList.isSuffixOf? text.toList).map String.ofList

@[simp] theorem before?_append (text ending : String) :
    before? ending (text ++ ending) = some text := by
  have found : ending.toList.isSuffixOf? (text ++ ending).toList = some text.toList :=
    List.isSuffixOf?_eq_some_iff_append_eq.mpr (by simp)
  rw [before?, found, Option.map_some, String.ofList_toList]

/-- What stands between a start and an end of a text. -/
def inside? (start ending text : String) : Option String :=
  ((start.toList.isPrefixOf? text.toList).map String.ofList).bind (before? ending)

theorem inside?_eq_some_iff {start ending text inner : String} :
    inside? start ending text = some inner ↔ start ++ inner ++ ending = text := by
  simp only [inside?, before?, Option.bind_eq_some_iff, Option.map_eq_some_iff,
    List.isPrefixOf?_eq_some_iff_append_eq, List.isSuffixOf?_eq_some_iff_append_eq]
  constructor
  · rintro ⟨_, ⟨rest, front, rfl⟩, inner, back, rfl⟩
    rw [← String.toList_inj, String.toList_append, String.toList_append, String.toList_ofList,
      List.append_assoc, back, String.toList_ofList, front]
  · rintro rfl
    exact ⟨inner ++ ending, ⟨(inner ++ ending).toList, by simp, String.ofList_toList⟩, inner.toList,
      by simp, String.ofList_toList⟩

theorem inside?_append (start text ending : String) :
    inside? start ending (start ++ text ++ ending) = some text :=
  inside?_eq_some_iff.mpr rfl

/-- What stands on the lines of a text between a start and an end. -/
def between (start ending text : String) : List String :=
  (restsBehind start text).filterMap (before? ending)

/-- A line is tidy if its end is. -/
theorem isTidyLine_append {ending : String} (tidy : IsTidyLine ending.toList)
    (start text : String) : IsTidyLine (start ++ (text ++ ending)).toList := by
  obtain ⟨front, c, chars, shown⟩ := tidy
  refine ⟨start.toList ++ text.toList ++ front, c, ?_, shown⟩
  simp [chars]

theorem between_unlines {before after : List String} {text ending : String} (given : start ≠ "")
    (outside : ∀ l ∈ before ++ after, IsOther start l)
    (single : IsSingle (start ++ (text ++ ending)))
    (tidy : IsTidyLine ending.toList) :
    between start ending (unlines (before ++ [start ++ (text ++ ending)] ++ after)) = [text] := by
  rw [between, restsBehind_unlines_singleton given outside single (isTidyLine_append tidy _ _),
    List.filterMap_cons, before?_append]
  rfl

end DesignTokens.Text
