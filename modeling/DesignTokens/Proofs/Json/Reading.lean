import DesignTokens.Json.Reader
import DesignTokens.Proofs.Json.Lexemes

/-!
# Reading what was written

The builder makes the document again from its lexemes, so what is written for a
document is read as the document but for its numbers, which are read from their
texts.  This takes brackets that do not nest too deep.
-/

namespace DesignTokens.Json

/-! ## Depth -/

mutual

/-- How deep the brackets of a document nest. -/
def depth : Json → Nat
  | .arr items => itemDepth items + 1
  | .obj fields => fieldDepth fields + 1
  | _ => 0

/-- How deep the brackets in the items of an array nest. -/
def itemDepth : List Json → Nat
  | [] => 0
  | j :: js => max (depth j) (itemDepth js)

/-- How deep the brackets in the fields of an object nest. -/
def fieldDepth : List (String × Json) → Nat
  | [] => 0
  | (_, j) :: fs => max (depth j) (fieldDepth fs)

end

/-! ## Steps of the builder -/

/-- Goes over several lexemes. -/
def build (b : Builder) (ls : List Lexeme) : Option Builder := ls.foldlM Builder.step b

theorem build_cons (b : Builder) (l : Lexeme) (ls : List Lexeme) :
    build b (l :: ls) = (b.step l).bind (build · ls) := List.foldlM_cons

theorem build_append (b : Builder) (ls ms : List Lexeme) :
    build b (ls ++ ms) = (build b ls).bind (build · ms) := List.foldlM_append

/-- Whether the builder waits for a value. -/
def Builder.Waits (b : Builder) : Prop := b.place = .value ∨ b.place = .firstItem

theorem step_of_waits {b : Builder} (waits : b.Waits) {l : Lexeme} (opens : l ≠ .closeBracket) :
    b.step l = b.value? l := by
  obtain ⟨frames, place, whole⟩ := b
  rcases waits with due | due
  · cases due
    rfl
  · cases due
    cases l <;> first | rfl | exact absurd rfl opens

theorem close_array {frames : List Frame} (shallow : frames.length + 1 ≤ depthLimit)
    (items : List Json) (place : Place) (whole : Json) :
    Builder.close ⟨.array items :: frames, place, whole⟩
      = some (Builder.put ⟨frames, place, whole⟩ (.arr items.reverse)) := by
  simp only [Builder.close, Frame.close, shallow, if_true]

theorem close_object {frames : List Frame} (shallow : frames.length + 1 ≤ depthLimit)
    (fields : List (String × Json)) (key : String) (place : Place) (whole : Json) :
    Builder.close ⟨.object fields true key :: frames, place, whole⟩
      = some (Builder.put ⟨frames, place, whole⟩ (.obj fields.reverse)) := by
  simp only [Builder.close, Frame.close, shallow, decide_true, Bool.and_self, if_true]

/-! ## Building documents -/

mutual

/-- The lexemes of a document put what is read of the document in its place. -/
theorem build_lexemesOf : ∀ {j : Json}, IsSound j → ∀ {b : Builder}, b.Waits →
    b.frames.length + j.depth ≤ depthLimit → build b (lexemesOf j) = some (b.put j.reread)
  | .null, _, b, waits, _ => by
    rw [lexemesOf, build_cons, step_of_waits waits (by simp)]
    rfl
  | .bool _, _, b, waits, _ => by
    rw [lexemesOf, build_cons, step_of_waits waits (by simp)]
    rfl
  | .num _, _, b, waits, _ => by
    rw [lexemesOf, build_cons, step_of_waits waits (by simp)]
    rfl
  | .str _, _, b, waits, _ => by
    rw [lexemesOf, build_cons, step_of_waits waits (by simp)]
    rfl
  | .arr [], _, b, waits, shallow => by
    rw [lexemesOf, build_cons, step_of_waits waits (by simp)]
    exact close_array shallow [] .firstItem b.whole
  | .arr (j :: js), ⟨first, rest⟩, b, waits, shallow => by
    simp only [depth, itemDepth] at shallow
    -- The first item is built in a frame of its own, which the rest of the array fills.
    have inside := build_lexemesOf first (b := ⟨.array [] :: b.frames, .firstItem, b.whole⟩)
      (.inr rfl) (by simp only [List.length_cons]; omega)
    rw [lexemesOf, build_cons, step_of_waits waits (by simp)]
    show build _ (lexemesOf j ++ itemTail js) = _
    rw [build_append, inside, Option.bind_some]
    exact build_itemTail rest [j.reread] b.frames b.whole (by omega)
  | .obj [], _, b, waits, shallow => by
    rw [lexemesOf, build_cons, step_of_waits waits (by simp)]
    exact close_object shallow [] "" .firstKey b.whole
  | .obj ((k, j) :: fs), ⟨first, rest⟩, b, waits, shallow => by
    simp only [depth, fieldDepth] at shallow
    have inside := build_lexemesOf first (b := ⟨.object [] true k :: b.frames, .value, b.whole⟩)
      (.inl rfl) (by simp only [List.length_cons]; omega)
    rw [lexemesOf, build_cons, step_of_waits waits (by simp)]
    show build ⟨.object [] true k :: b.frames, .value, b.whole⟩ (lexemesOf j ++ fieldTail fs) = _
    rw [build_append, inside, Option.bind_some]
    exact build_fieldTail rest [(k, j.reread)] k b.frames b.whole (by omega)

theorem build_itemTail : ∀ {js : List Json}, AreSound js → ∀ (items : List Json)
    (frames : List Frame) (whole : Json), frames.length + 1 + itemDepth js ≤ depthLimit →
    build ⟨.array items :: frames, .after, whole⟩ (itemTail js)
      = some (Builder.put ⟨frames, .after, whole⟩ (.arr (items.reverse ++ rereadItems js)))
  | [], _, items, frames, whole, shallow => by
    rw [itemTail, rereadItems, List.append_nil]
    exact close_array shallow items .after whole
  | j :: js, ⟨first, rest⟩, items, frames, whole, shallow => by
    simp only [itemDepth] at shallow
    have inside := build_lexemesOf first (b := ⟨.array items :: frames, .value, whole⟩)
      (.inl rfl) (by simp only [List.length_cons]; omega)
    have others := build_itemTail rest (j.reread :: items) frames whole (by omega)
    rw [List.reverse_cons, List.append_assoc, List.singleton_append] at others
    rw [itemTail, rereadItems, build_cons]
    show build _ (lexemesOf j ++ itemTail js) = _
    rw [build_append, inside, Option.bind_some]
    exact others

theorem build_fieldTail : ∀ {fs : List (String × Json)}, HaveSound fs →
    ∀ (fields : List (String × Json)) (key : String) (frames : List Frame) (whole : Json),
    frames.length + 1 + fieldDepth fs ≤ depthLimit →
    build ⟨.object fields true key :: frames, .after, whole⟩ (fieldTail fs)
      = some (Builder.put ⟨frames, .after, whole⟩ (.obj (fields.reverse ++ rereadFields fs)))
  | [], _, fields, key, frames, whole, shallow => by
    rw [fieldTail, rereadFields, List.append_nil]
    exact close_object shallow fields key .after whole
  | (k, j) :: fs, ⟨first, rest⟩, fields, key, frames, whole, shallow => by
    simp only [fieldDepth] at shallow
    have inside := build_lexemesOf first (b := ⟨.object fields true k :: frames, .value, whole⟩)
      (.inl rfl) (by simp only [List.length_cons]; omega)
    have others := build_fieldTail rest ((k, j.reread) :: fields) k frames whole (by omega)
    rw [List.reverse_cons, List.append_assoc, List.singleton_append] at others
    rw [fieldTail, rereadFields, build_cons]
    show build ⟨.object fields true k :: frames, .value, whole⟩ (lexemesOf j ++ fieldTail fs) = _
    rw [build_append, inside, Option.bind_some]
    exact others

end

/-- A text with the lexemes of a document is read as the document with its numbers read again. -/
theorem read?_of_scans {text : String} {j : Json} (scans : Scans text.toList (lexemesOf j))
    (sound : IsSound j) (shallow : j.depth ≤ depthLimit) : read? text = some j.reread := by
  have built := build_lexemesOf sound (b := .start) (.inl rfl)
    (by rw [Builder.start, List.length_nil]; omega)
  rw [read?, lexemes?_of_scans scans, Option.bind_some, ofLexemes?]
  show (build .start (lexemesOf j)).bind Builder.finish = some j.reread
  rw [built]
  rfl

/-- What is written for a document is read as the document with its numbers read again. -/
theorem read?_compact {j : Json} (sound : IsSound j) (shallow : j.depth ≤ depthLimit) :
    read? j.compact = some j.reread :=
  read?_of_scans (scans_compact sound) sound shallow

theorem read?_pretty {j : Json} (sound : IsSound j) (shallow : j.depth ≤ depthLimit) :
    read? j.pretty = some j.reread :=
  read?_of_scans (scans_pretty sound) sound shallow

end DesignTokens.Json
