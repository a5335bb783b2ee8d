import DesignTokens.Json.Writer
import DesignTokens.Proofs.Decimal.Literal
import DesignTokens.Proofs.Json.Value

/-!
# Numbers that are written and read

The text of a double tells it from all others, but numbers in documents are read
in a way that may miss the double by a little.  Which doubles come through can be
computed, and a document comes through if all its numbers do.
-/

namespace DesignTokens.Json

/-! ## Single numbers -/

namespace Number

/-- What is read for the text of a number, if that is a number. -/
def reread? (n : Number) : Option Number :=
  (Decimal.Literal.ofChars? n.text.toList).bind ofLiteral?

/-- Whether a number comes through: it is read from its own text. -/
def IsLossless (n : Number) : Prop := n.reread? = some n

instance (n : Number) : Decidable n.IsLossless := inferInstanceAs (Decidable (n.reread? = some n))

/-- Most doubles come through, but the one below `14.4` does not: its text `14.399999999999999` is
read as `14.4`. -/
example : (real 14.4).IsLossless ∧
    (real (.ofBits 4624296097384025292)).reread? = some (real 14.4) := by
  decide +kernel

theorem ofChars?_integerText (n : Int) :
    Decimal.Literal.ofChars? (integerText n).toList
      = some ⟨decide (n < 0), Decimal.digits n.natAbs, [], none⟩ := by
  cases n with
  | ofNat m => exact Decimal.toList_wholeText m ▸ Decimal.ofChars?_digits false m
  | negSucc m =>
    have text : (integerText (.negSucc m)).toList
        = Decimal.signChars true ++ Decimal.digits (m + 1) := by
      simp [integerText, Decimal.signChars]
    have sign : decide (Int.negSucc m < 0) = true := decide_eq_true (Int.negSucc_lt_zero m)
    rw [text, sign]
    exact Decimal.ofChars?_digits true (m + 1)

/-- Whole numbers of 64 bits come through. -/
theorem isLossless_whole {n : Int} (low : leastWhole ≤ n) (high : n ≤ greatestWhole) :
    (whole n).IsLossless := by
  have coefficient : Decimal.Literal.coefficient
      ⟨decide (n < 0), Decimal.digits n.natAbs, [], none⟩ = n.natAbs := by
    rw [Decimal.Literal.coefficient, List.append_nil, Decimal.digitsValue_digits]
  have value : (if decide (n < 0) = true then -(n.natAbs : Int) else n.natAbs) = n := by
    simp only [decide_eq_true_eq]
    split <;> omega
  -- A sign stands before digits that are not zero, so the number is not read as a double.
  have zero : (decide (n < 0) && n.natAbs == 0) = false := by
    simp only [Bool.and_eq_false_iff, decide_eq_false_iff_not, beq_eq_false_iff_ne]
    omega
  rw [IsLossless, reread?, text, ofChars?_integerText, Option.bind_some, ofLiteral?]
  simp only [coefficient, value, zero, low, high]
  rfl

/-- A finite double is written as a literal that it is the nearest double to. -/
theorem exists_literal_real {x : Float} (finite : Decimal.isFinite x = true) :
    ∃ l, Decimal.Literal.ofChars? (real x).text.toList = some l ∧ l.isWhole = false ∧
      l.toFloat = x := by
  have point : numberLayout.wholeEnd = ".0" := rfl
  rw [text, if_pos finite]
  exact Decimal.exists_literal_text point finite

theorem ofLiteral?_of_not_isWhole {l : Decimal.Literal} (broken : l.isWhole = false) :
    ofLiteral? l = (l.scaledFloat?.filter Decimal.isFinite).map real := by
  simp only [ofLiteral?, broken, Bool.false_and]
  rfl

/-- What is not finite is not written as a number at all. -/
theorem IsLossless.isFinite {x : Float} (lossless : (real x).IsLossless) :
    Decimal.isFinite x = true := by
  by_contra infinite
  rw [IsLossless, reread?, text, if_neg infinite] at lossless
  cases lossless

/-- The text of a sound number is a literal. -/
theorem exists_literal_of_isSound {n : Number} (sound : IsSound (.num n)) :
    ∃ l, Decimal.Literal.ofChars? n.text.toList = some l := by
  cases n with
  | whole n => exact ⟨_, ofChars?_integerText n⟩
  | real x =>
    obtain ⟨l, written, _⟩ := exists_literal_real sound
    exact ⟨l, written⟩

end Number

/-! ## Documents -/

mutual

/-- What a document is read as after it was written: each number in it as its text is. -/
def reread : Json → Json
  | .num n => (n.reread?.map .num).getD .unreadable
  | .arr items => .arr (rereadItems items)
  | .obj fields => .obj (rereadFields fields)
  | j => j

/-- What the items of an array are read as. -/
def rereadItems : List Json → List Json
  | [] => []
  | j :: js => reread j :: rereadItems js

/-- What the fields of an object are read as. -/
def rereadFields : List (String × Json) → List (String × Json)
  | [] => []
  | (k, j) :: fs => (k, reread j) :: rereadFields fs

end

mutual

/-- The numbers in a document. -/
def numbers : Json → List Number
  | .num n => [n]
  | .arr items => itemNumbers items
  | .obj fields => fieldNumbers fields
  | _ => []

/-- The numbers in the items of an array. -/
def itemNumbers : List Json → List Number
  | [] => []
  | j :: js => numbers j ++ itemNumbers js

/-- The numbers in the fields of an object. -/
def fieldNumbers : List (String × Json) → List Number
  | [] => []
  | (_, j) :: fs => numbers j ++ fieldNumbers fs

end

/-- Whether all numbers in a document come through. -/
def IsLossless (j : Json) : Prop := ∀ n ∈ j.numbers, n.IsLossless

instance (j : Json) : Decidable j.IsLossless :=
  inferInstanceAs (Decidable (∀ n ∈ j.numbers, n.IsLossless))

theorem isLossless_obj_iff {fields : List (String × Json)} :
    (obj fields).IsLossless ↔ ∀ f ∈ fields, f.2.IsLossless := by
  show (∀ n ∈ fieldNumbers fields, n.IsLossless) ↔ _
  induction fields with
  | nil => exact ⟨fun _ => List.forall_mem_nil _, fun _ => List.forall_mem_nil _⟩
  | cons f fs ih => rw [fieldNumbers, List.forall_mem_append, ih, List.forall_mem_cons, IsLossless]

theorem rereadFields_eq_map (fields : List (String × Json)) :
    rereadFields fields = fields.map (fun f => (f.1, f.2.reread)) := by
  induction fields with
  | nil => rfl
  | cons f fs ih => rw [rereadFields, ih, List.map_cons]

mutual

/-- A document whose numbers come through is read as it was written. -/
theorem reread_of_isLossless : ∀ {j : Json}, j.IsLossless → j.reread = j
  | .null, _ => rfl
  | .bool _, _ => rfl
  | .str _, _ => rfl
  | .unreadable, _ => rfl
  | .num n, lossless => by
    have own : n.reread? = some n := lossless n List.mem_cons_self
    rw [reread, own]
    rfl
  | .arr items, lossless => congrArg arr (rereadItems_of_areLossless lossless)
  | .obj fields, lossless => congrArg obj (rereadFields_of_haveLossless lossless)

theorem rereadItems_of_areLossless : ∀ {items : List Json},
    (∀ n ∈ itemNumbers items, n.IsLossless) → rereadItems items = items
  | [], _ => rfl
  | j :: js, lossless => by
    obtain ⟨first, rest⟩ := List.forall_mem_append.mp lossless
    rw [rereadItems, reread_of_isLossless first, rereadItems_of_areLossless rest]

theorem rereadFields_of_haveLossless : ∀ {fields : List (String × Json)},
    (∀ n ∈ fieldNumbers fields, n.IsLossless) → rereadFields fields = fields
  | [], _ => rfl
  | (k, j) :: fs, lossless => by
    obtain ⟨first, rest⟩ := List.forall_mem_append.mp lossless
    rw [rereadFields, reread_of_isLossless first, rereadFields_of_haveLossless rest]

end

end DesignTokens.Json
