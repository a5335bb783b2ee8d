import DesignTokens.Text.Lines
import Mathlib.Data.List.Basic

/-!
# Lines of written texts

A text that is written line by line is cut into the same lines again, and
tidying leaves it alone where its lines are tidy.
-/

namespace DesignTokens.Text

/-! ## Cutting -/

theorem splitLines_append {line : List Char} (single : '\n' ∉ line) (rest : List Char) :
    splitLines (line ++ '\n' :: rest) = line :: splitLines rest := by
  induction line with
  | nil => rw [List.nil_append, splitLines, if_pos rfl]
  | cons c cs ih =>
    rw [List.mem_cons, not_or] at single
    rw [List.cons_append, splitLines, if_neg (Ne.symm single.1), ih single.2]
    rfl

/-- Lines are found again, and behind the last line feed there is nothing. -/
theorem splitLines_unlineChars {lines : List (List Char)} (single : ∀ l ∈ lines, '\n' ∉ l) :
    splitLines (unlineChars lines) = lines ++ [[]] := by
  induction lines with
  | nil => rfl
  | cons line lines ih =>
    rw [List.forall_mem_cons] at single
    have first : unlineChars (line :: lines) = line ++ '\n' :: unlineChars lines := by
      simp [unlineChars]
    rw [first, splitLines_append single.1, ih single.2]
    rfl

theorem toList_unlines (lines : List String) :
    (unlines lines).toList = unlineChars (lines.map String.toList) := by
  simp [unlines, unlineChars, String.toList_join, List.flatMap_map]

/-! ## Tidy lines -/

/-- Whether a line has something in it, and no blank at its end. -/
def IsTidyLine (line : List Char) : Prop := ∃ front c, line = front ++ [c] ∧ isBlank c = false

theorem trimEnd_of_isTidyLine {line : List Char} (tidy : IsTidyLine line) :
    trimEnd line = line ∧ line.isEmpty = false := by
  obtain ⟨front, c, rfl, shown⟩ := tidy
  simp [trimEnd, shown]

theorem squeeze_append_nil {lines : List (List Char)} (tidy : ∀ l ∈ lines, l.isEmpty = false) :
    squeeze false (lines ++ [[]]) = lines := by
  induction lines with
  | nil => rfl
  | cons line lines ih =>
    rw [List.forall_mem_cons] at tidy
    rw [List.cons_append, squeeze, tidy.1, ih tidy.2]
    rfl

/-- Tidying leaves tidy lines alone. -/
theorem tidyLines_append_nil {lines : List (List Char)} (tidy : ∀ l ∈ lines, IsTidyLine l) :
    tidyLines (lines ++ [[]]) = lines := by
  have trimmed : (lines ++ [[]]).map trimEnd = lines ++ [[]] := by
    have each : ∀ l ∈ lines, trimEnd l = l :=
      fun l member => (trimEnd_of_isTidyLine (tidy l member)).1
    rw [List.map_append, List.map_congr_left each, List.map_id']
    rfl
  have nonempty : ∀ l ∈ lines, l.isEmpty = false := fun l member =>
    (trimEnd_of_isTidyLine (tidy l member)).2
  rw [tidyLines, trimmed]
  cases lines with
  | nil => rfl
  | cons line lines =>
    have start : ¬ line.isEmpty = true := by rw [nonempty line List.mem_cons_self]; decide
    rw [List.cons_append, List.dropWhile_cons_of_neg start, ← List.cons_append,
      squeeze_append_nil nonempty]

theorem tidy_unlines {lines : List String} (single : ∀ l ∈ lines, '\n' ∉ l.toList)
    (tidied : ∀ l ∈ lines, IsTidyLine l.toList) : tidy (unlines lines) = unlines lines := by
  have single' : ∀ l ∈ lines.map String.toList, '\n' ∉ l := List.forall_mem_map.mpr single
  have tidied' : ∀ l ∈ lines.map String.toList, IsTidyLine l := List.forall_mem_map.mpr tidied
  rw [← String.toList_inj, tidy, String.toList_ofList, toList_unlines, tidyChars,
    splitLines_unlineChars single', tidyLines_append_nil tidied']

end DesignTokens.Text
