import DesignTokens.Css.Number
import DesignTokens.Proofs.Decimal.Literal

/-!
# Characters of printed numbers

A printed number is made of digits, signs, a point and the letters of an
exponent or of what is no number.  So it has no blank in it and no sign that
means anything to a stylesheet or to a source file.
-/

namespace DesignTokens

/-! ## Decimals -/

namespace Decimal

/-- Whether a character may stand in a printed number. -/
def isNumeralChar (c : Char) : Bool :=
  c.isDigit || ['+', '-', '.', 'e', 'N', 'a', 'i', 'n', 'f'].contains c

/-- Whether a text is made of nothing but characters of numbers. -/
def IsNumeral (text : String) : Prop := ∀ c ∈ text.toList, isNumeralChar c = true

instance (text : String) : Decidable (IsNumeral text) :=
  decidable_of_iff (text.toList.all isNumeralChar = true) List.all_eq_true

theorem IsNumeral.append {s t : String} (first : IsNumeral s) (second : IsNumeral t) :
    IsNumeral (s ++ t) := by
  rw [IsNumeral, String.toList_append, List.forall_mem_append]
  exact ⟨first, second⟩

theorem isNumeral_ofList {cs : List Char} (digits : ∀ c ∈ cs, c.isDigit = true) :
    IsNumeral (String.ofList cs) := by
  intro c member
  rw [String.toList_ofList] at member
  rw [isNumeralChar, digits c member, Bool.true_or]

theorem isNumeral_positionalText {layout : Layout} (ends : IsNumeral layout.wholeEnd)
    (d : Scientific) : IsNumeral (positionalText layout d) := by
  have run : ∀ c ∈ digits d.coefficient, c.isDigit = true := fun c => isDigit_of_mem_digits
  rw [positionalText]
  split
  · -- Behind the digits of a whole number come its zeros.
    refine (isNumeral_ofList ?_).append ends
    exact List.forall_mem_append.mpr ⟨run, isDigit_of_mem_zeros _⟩
  · simp only
    split
    · have point : IsNumeral "." := by decide
      refine ((isNumeral_ofList fun c member => ?_).append point).append
        (isNumeral_ofList fun c member => ?_)
      · exact run c (List.mem_of_mem_take member)
      · exact run c (List.mem_of_mem_drop member)
    · have zero : IsNumeral "0." := by decide
      refine zero.append (isNumeral_ofList ?_)
      exact List.forall_mem_append.mpr ⟨isDigit_of_mem_zeros _, run⟩

theorem isNumeral_exponentText (e : Int) : IsNumeral (exponentText e) := by
  have plus : IsNumeral "e+" := by decide
  have minus : IsNumeral "e-" := by decide
  cases e with
  | ofNat n => exact plus.append (isNumeral_ofList fun c => isDigit_of_mem_digits)
  | negSucc n => exact minus.append (isNumeral_ofList fun c => isDigit_of_mem_digits)

theorem isNumeral_exponentialText (d : Scientific) : IsNumeral (exponentialText d) := by
  have run : ∀ c ∈ digits d.coefficient, c.isDigit = true := fun c => isDigit_of_mem_digits
  have numeral : ∀ c ∈ digits d.coefficient, isNumeralChar c = true := by
    intro c member
    rw [isNumeralChar, run c member, Bool.true_or]
  rw [exponentialText]
  split
  · decide
  · rename_i c cs parts
    rw [parts, List.forall_mem_cons] at numeral
    refine IsNumeral.append ?_ (isNumeral_exponentText _)
    intro d member
    rw [String.toList_ofList] at member
    split at member
    · rw [List.mem_singleton.mp member]
      exact numeral.1
    · rcases List.mem_cons.mp member with rfl | later
      · exact numeral.1
      · rcases List.mem_cons.mp later with rfl | place
        · decide
        · exact numeral.2 d place

/-- Whatever the layout, a double is printed with characters of numbers. -/
theorem isNumeral_text {layout : Layout} (ends : IsNumeral layout.wholeEnd) (x : Float) :
    IsNumeral (layout.text x) := by
  have sign (negative : Bool) : IsNumeral (if negative then "-" else "") := by
    cases negative <;> decide
  have zero : IsNumeral "0" := by decide
  rw [Layout.text]
  split
  · decide
  · split <;> decide
  · simp only
    split
    · exact ((sign _).append zero).append ends
    · refine (sign _).append ?_
      rw [Layout.magnitudeText]
      split
      · exact isNumeral_positionalText ends _
      · exact isNumeral_exponentialText _

end Decimal

/-! ## Numbers in stylesheets -/

namespace Css

open Decimal

theorem isNumeral_plain (x : Float) : IsNumeral (plain x) := isNumeral_text (by decide) x

theorem isNumeral_number (x : Float) : IsNumeral (number x) := by
  rw [number]
  split
  · decide
  · exact isNumeral_plain x

end Css

end DesignTokens
