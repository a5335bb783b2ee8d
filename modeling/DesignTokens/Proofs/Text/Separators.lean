/-!
# Texts with separators

A text is split in only one way at a separator that does not occur in its parts.
-/

namespace DesignTokens.Text

variable {α : Type}

/-- A text is split at the first separator in only one way. -/
theorem eq_of_split_at_first {a : α} {xs ys rest others : List α} (absent : a ∉ xs)
    (absent' : a ∉ ys) (same : xs ++ a :: rest = ys ++ a :: others) : xs = ys ∧ rest = others := by
  induction xs generalizing ys with
  | nil =>
    cases ys with
    | nil => simpa using same
    | cons y ys =>
      simp only [List.nil_append, List.cons_append, List.cons.injEq] at same
      exact absurd (same.1 ▸ List.mem_cons_self) absent'
  | cons x xs ih =>
    cases ys with
    | nil =>
      simp only [List.nil_append, List.cons_append, List.cons.injEq] at same
      exact absurd (same.1 ▸ List.mem_cons_self) absent
    | cons y ys =>
      simp only [List.cons_append, List.cons.injEq] at same
      simp only [List.mem_cons, not_or] at absent absent'
      obtain ⟨heads, tails⟩ := ih absent.2 absent'.2 same.2
      exact ⟨by rw [same.1, heads], tails⟩

/-- A text is split at the last separator in only one way. -/
theorem eq_of_split_at_last {a : α} {xs ys rest others : List α} (absent : a ∉ rest)
    (absent' : a ∉ others) (same : xs ++ a :: rest = ys ++ a :: others) :
    xs = ys ∧ rest = others := by
  -- The last separator is the first one from the other end.
  have reversed : rest.reverse ++ a :: xs.reverse = others.reverse ++ a :: ys.reverse := by
    simpa using congrArg List.reverse same
  obtain ⟨ends, starts⟩ := eq_of_split_at_first (by simpa using absent) (by simpa using absent')
    reversed
  exact ⟨List.reverse_inj.mp starts, List.reverse_inj.mp ends⟩

end DesignTokens.Text
