import DesignTokens.Decimal.Layout
import DesignTokens.Decimal.Reading
import Mathlib

/-!
# Digits of natural numbers

What is written for a natural number is read as that number.
-/

namespace DesignTokens.Decimal

theorem isDigit_of_mem_digits {n : Nat} {c : Char} (member : c ∈ digits n) : c.isDigit :=
  Nat.isDigit_of_mem_toDigits (by decide) (by decide) member

/-- Whatever the base, what is written for a number is made of its digits. -/
theorem exists_of_mem_toDigits {base n : Nat} (large : 1 < base) {c : Char}
    (member : c ∈ Nat.toDigits base n) : ∃ d < base, c = Nat.digitChar d := by
  induction n using Nat.strongRecOn with
  | ind n ih =>
    rw [Nat.toDigits_eq_if large] at member
    split at member
    · rename_i single
      exact ⟨n, single, List.mem_singleton.mp member⟩
    · rcases List.mem_append.mp member with front | last
      · exact ih (n / base) (Nat.div_lt_self (by omega) large) front
      · exact ⟨n % base, Nat.mod_lt n (by omega), List.mem_singleton.mp last⟩

theorem digits_ne_nil (n : Nat) : digits n ≠ [] := Nat.toDigits_ne_nil

/-- A run of digits is read as the number it stands for. -/
theorem digitsValue_eq (cs : List Char) : digitsValue cs = Nat.ofDigitChars 10 cs 0 := rfl

theorem digitsValue_digits (n : Nat) : digitsValue (digits n) = n := by
  rw [digitsValue_eq, digits, Nat.ofDigitChars_ten_toDigits]

theorem digits_injective {m n : Nat} (same : digits m = digits n) : m = n := by
  rw [← digitsValue_digits m, same, digitsValue_digits]

theorem digitsValue_append (as bs : List Char) :
    digitsValue (as ++ bs) = digitsValue as * 10 ^ bs.length + digitsValue bs := by
  simp only [digitsValue_eq]
  rw [Nat.ofDigitChars_append, Nat.ofDigitChars_eq_ofDigitChars_zero, Nat.mul_comm]

theorem digitsValue_replicate_zero (n : Nat) : digitsValue (List.replicate n '0') = 0 := by
  rw [digitsValue_eq, Nat.ofDigitChars_replicate_zero, Nat.mul_zero]

/-- A positive number does not start with zero. -/
theorem head_digits_ne_zero {n : Nat} (positive : 0 < n) {c : Char} {cs : List Char}
    (parts : digits n = c :: cs) : c ≠ '0' := by
  induction n using Nat.strongRecOn generalizing cs with
  | ind n ih =>
    rw [digits, Nat.toDigits_eq_if (by decide)] at parts
    split at parts
    · rename_i single
      cases parts
      interval_cases n <;> decide
    · have shorter := digits_ne_nil (n / 10)
      cases rest : digits (n / 10) with
      | nil => exact absurd rest shorter
      | cons d ds =>
        rw [← digits, rest] at parts
        cases parts
        exact ih (n / 10) (by omega) (by omega) rest

@[simp] theorem toList_wholeText (n : Nat) : (wholeText n).toList = digits n := by
  simp [wholeText]

end DesignTokens.Decimal
