import DesignTokens.Export.Request
import DesignTokens.History.Log
import DesignTokens.Proofs.TokenSet.Json

/-!
# Token sets read from their texts

A token set is read back from the file that is exported for it and from the text
that a history keeps of it, entry by entry and in the same order.  This takes
line heights that come through the text, which finite ones mostly do and others
never do.
-/

namespace DesignTokens

open Json

/-- A token set is read back from the file that is exported for it and from the text that every
store is given for the live token set, as long as its line heights come through and only then. -/
theorem token_sets_read_as_written (s : TokenSet) :
    ((read? (s.exported .json)).bind ofJson? = some s ↔ s.IsLossless) ∧
    ∃ text, (∀ {m : Type → Type} [Monad m] (store : Store m),
        History.setCurrent store s = History.saveText store History.currentKey text) ∧
      ((read? text).bind ofJson? = some s ↔ s.IsLossless) :=
  ⟨read_pretty_tokenSet_iff, (toJson s).compact, fun _ => rfl, read_tokenSet_iff⟩

/-- Text styles come through with heights like `1.2`, but not with the height below `14.4`. -/
example : (∀ x ∈ [1.2, 0.75, 100.0, 14.4], (Number.real x).IsLossless) ∧
    ¬ (Number.real (.ofBits 4624296097384025292)).IsLossless := by
  decide +kernel

end DesignTokens
