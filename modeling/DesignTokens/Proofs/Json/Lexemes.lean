import DesignTokens.Proofs.Json.Numbers
import DesignTokens.Proofs.Json.Scan

/-!
# Lexemes of written documents

What is written for a document is cut into the lexemes of the document, with the
numbers as they are read.  Blanks between them make no difference, so that the compact form and the pretty form
are looked at together: they are one text with different blanks in it.
-/

namespace DesignTokens.Json

/-! ## Numbers -/

theorem ofNumber?_text {n : Number} (sound : IsSound (.num n)) :
    Lexeme.ofNumber? n.text.toList = some (.num n.reread?) := by
  obtain ⟨l, written⟩ := Number.exists_literal_of_isSound sound
  rw [Lexeme.ofNumber?, Number.reread?, written]
  rfl

/-! ## Lexemes of documents -/

mutual

/-- The lexemes of a document. -/
def lexemesOf : Json → List Lexeme
  | .null => [.null]
  | .bool b => [.bool b]
  | .num n => [.num n.reread?]
  | .str s => [.str (some s)]
  | .arr [] => [.openBracket, .closeBracket]
  | .arr (j :: js) => .openBracket :: (lexemesOf j ++ itemTail js)
  | .obj [] => [.openBrace, .closeBrace]
  | .obj ((k, j) :: fs) => .openBrace :: .str (some k) :: .colon :: (lexemesOf j ++ fieldTail fs)
  | .unreadable => []

/-- The lexemes behind the first items of an array. -/
def itemTail : List Json → List Lexeme
  | [] => [.closeBracket]
  | j :: js => .comma :: (lexemesOf j ++ itemTail js)

/-- The lexemes behind the first fields of an object. -/
def fieldTail : List (String × Json) → List Lexeme
  | [] => [.closeBrace]
  | (k, j) :: fs => .comma :: .str (some k) :: .colon :: (lexemesOf j ++ fieldTail fs)

end

/-! ## Blanks -/

theorem breaks_of_isSpace {c : Char} (blank : isSpace c = true) : Breaks c := by
  simp only [isSpace, Bool.or_eq_true, beq_iff_eq] at blank
  rcases blank with ((rfl | rfl) | rfl) | rfl <;> exact ⟨rfl, rfl⟩

/-- Blanks hold no lexemes. -/
theorem closes_blanks {cs : List Char} (blank : ∀ c ∈ cs, isSpace c = true) : Closes cs [] := by
  intro found
  induction cs with
  | nil => rfl
  | cons c cs ih =>
    rw [List.forall_mem_cons] at blank
    rw [scan_cons, Scanner.step, Scanner.start?, if_pos blank.1, Option.bind_some]
    exact ih blank.2

theorem Ends.of_blanks {cs ds : List Char} {ls : List Lexeme}
    (blank : ∀ c ∈ cs, isSpace c = true) (ends : Ends ds ls) : Ends (cs ++ ds) ls := by
  cases cs with
  | nil => exact ends
  | cons c cs =>
    rw [List.forall_mem_cons] at blank
    have first : Ends [c] [] := by
      refine ⟨⟨c, [], rfl, breaks_of_isSpace blank.1⟩, closes_blanks ?_⟩
      exact List.forall_mem_singleton.mpr blank.1
    exact first.append ((closes_blanks blank.2).append ends.2)

/-- The blanks in the text of a document: what stands in front of a part inside so many brackets,
and what stands behind a colon. -/
structure Spacing where
  line : Nat → List Char
  gap : List Char
  blankLine : ∀ depth, ∀ c ∈ line depth, isSpace c = true
  blankGap : ∀ c ∈ gap, isSpace c = true

/-- No blanks at all. -/
def Spacing.tight : Spacing where
  line _ := []
  gap := []
  blankLine _ := List.forall_mem_nil _
  blankGap := List.forall_mem_nil _

@[simp]
theorem Spacing.line_tight (depth : Nat) : tight.line depth = [] := rfl

@[simp]
theorem Spacing.gap_tight : tight.gap = [] := rfl

/-- A line for each part. -/
def Spacing.wide : Spacing where
  line depth := '\n' :: List.replicate (2 * depth) ' '
  gap := [' ']
  blankLine _ := List.forall_mem_cons.mpr ⟨rfl, List.forall_mem_replicate.mpr (.inr rfl)⟩
  blankGap := List.forall_mem_singleton.mpr rfl

/-! ## Texts of documents -/

section Texts

variable (spacing : Spacing)

mutual

/-- The text of a document inside `depth` brackets. -/
def textOf (depth : Nat) : Json → List Char
  | .null => "null".toList
  | .bool b => (if b then "true" else "false").toList
  | .num n => n.text.toList
  | .str s => (quote s).toList
  | .arr [] => ['[', ']']
  | .arr (j :: js) =>
    ['['] ++ (spacing.line (depth + 1) ++ (textOf (depth + 1) j ++ itemTailText depth js))
  | .obj [] => ['\x7b', '\x7d']
  | .obj ((k, j) :: fs) =>
    ['\x7b'] ++ (spacing.line (depth + 1) ++ ((quote k).toList ++ ([':'] ++ (spacing.gap
      ++ (textOf (depth + 1) j ++ fieldTailText depth fs)))))
  | .unreadable => "null".toList

/-- The text behind the first items of an array. -/
def itemTailText (depth : Nat) : List Json → List Char
  | [] => spacing.line depth ++ [']']
  | j :: js =>
    [','] ++ (spacing.line (depth + 1) ++ (textOf (depth + 1) j ++ itemTailText depth js))

/-- The text behind the first fields of an object. -/
def fieldTailText (depth : Nat) : List (String × Json) → List Char
  | [] => spacing.line depth ++ ['\x7d']
  | (k, j) :: fs =>
    [','] ++ (spacing.line (depth + 1) ++ ((quote k).toList ++ ([':'] ++ (spacing.gap
      ++ (textOf (depth + 1) j ++ fieldTailText depth fs)))))

end

theorem closes_field (k : String) {cs : List Char} {ls : List Lexeme} (value : Closes cs ls) :
    Closes ((quote k).toList ++ ([':'] ++ (spacing.gap ++ cs)))
      (.str (some k) :: .colon :: ls) := by
  have behind := (closes_blanks spacing.blankGap).append value
  exact (closes_quote k).append ((ends_mark (c := ':') rfl).2.append behind)

mutual

/-- The text of a sound document is cut into its lexemes. -/
theorem scans_textOf : ∀ {j : Json}, IsSound j → ∀ depth : Nat,
    Scans (textOf spacing depth j) (lexemesOf j)
  | .null, _, _ => scans_word (.inl rfl) rfl
  | .bool true, _, _ => scans_word (.inr (.inl rfl)) rfl
  | .bool false, _, _ => scans_word (.inr (.inr rfl)) rfl
  | .num _, sound, _ => scans_number (ofNumber?_text sound)
  | .str s, _, _ => (closes_quote s).scans
  | .arr [], _, _ => ((ends_mark (c := '[') rfl).2.append (ends_mark (c := ']') rfl).2).scans
  | .arr (j :: js), ⟨first, rest⟩, depth => by
    rw [textOf, lexemesOf]
    -- The first item may be left open, but what follows breaks it off.
    have inside := (scans_textOf first (depth + 1)).append_ends (ends_itemTailText rest depth)
    have all := (closes_blanks (spacing.blankLine (depth + 1))).append inside
    exact ((ends_mark (c := '[') rfl).2.append all).scans
  | .obj [], _, _ => ((ends_mark (c := '\x7b') rfl).2.append (ends_mark (c := '\x7d') rfl).2).scans
  | .obj ((k, j) :: fs), ⟨first, rest⟩, depth => by
    rw [textOf, lexemesOf]
    have value := (scans_textOf first (depth + 1)).append_ends (ends_fieldTailText rest depth)
    have all := (closes_blanks (spacing.blankLine (depth + 1))).append
      (closes_field spacing k value)
    exact ((ends_mark (c := '\x7b') rfl).2.append all).scans

theorem ends_itemTailText : ∀ {js : List Json}, AreSound js → ∀ depth : Nat,
    Ends (itemTailText spacing depth js) (itemTail js)
  | [], _, depth => .of_blanks (spacing.blankLine depth) (ends_mark rfl)
  | j :: js, ⟨first, rest⟩, depth => by
    rw [itemTailText, itemTail]
    have inside := (scans_textOf first (depth + 1)).append_ends (ends_itemTailText rest depth)
    have all := (closes_blanks (spacing.blankLine (depth + 1))).append inside
    exact (ends_mark (c := ',') rfl).append all

theorem ends_fieldTailText : ∀ {fs : List (String × Json)}, HaveSound fs → ∀ depth : Nat,
    Ends (fieldTailText spacing depth fs) (fieldTail fs)
  | [], _, depth => .of_blanks (spacing.blankLine depth) (ends_mark rfl)
  | (k, j) :: fs, ⟨first, rest⟩, depth => by
    rw [fieldTailText, fieldTail]
    have value := (scans_textOf first (depth + 1)).append_ends (ends_fieldTailText rest depth)
    have all := (closes_blanks (spacing.blankLine (depth + 1))).append
      (closes_field spacing k value)
    exact (ends_mark (c := ',') rfl).append all

end

end Texts

/-! ## The two forms -/

theorem toList_intercalate_cons (separator part : String) (parts : List String) :
    (separator.intercalate (part :: parts)).toList
      = part.toList ++ parts.flatMap (fun p => separator.toList ++ p.toList) := by
  rw [String.toList_intercalate, List.map_cons]
  generalize part.toList = first
  induction parts generalizing first with
  | nil => simp
  | cons p parts ih =>
    rw [List.map_cons, List.intercalate_cons_cons, ih p.toList, List.flatMap_cons]
    simp

mutual

/-- The compact form has no blanks. -/
theorem toList_compact : ∀ (j : Json) (depth : Nat), (compact j).toList = textOf .tight depth j
  | .null, _ => rfl
  | .bool _, _ => rfl
  | .num _, _ => rfl
  | .str _, _ => rfl
  | .unreadable, _ => rfl
  | .arr [], _ => rfl
  | .arr (j :: js), depth => by
    have first := toList_compact j (depth + 1)
    have rest := flatMap_compactItems js depth
    rw [compact, compactItems, String.toList_append, String.toList_append,
      toList_intercalate_cons, List.append_assoc, List.append_assoc, rest, first, textOf,
      Spacing.line_tight, List.nil_append]
    rfl
  | .obj [], _ => rfl
  | .obj ((k, j) :: fs), depth => by
    have first := toList_compact j (depth + 1)
    have rest := flatMap_compactFields fs depth
    rw [compact, compactFields, String.toList_append, String.toList_append,
      toList_intercalate_cons, List.append_assoc, List.append_assoc, rest, String.toList_append,
      String.toList_append, first, List.append_assoc, List.append_assoc, textOf,
      Spacing.line_tight, Spacing.gap_tight, List.nil_append, List.nil_append]
    rfl

theorem flatMap_compactItems : ∀ (js : List Json) (depth : Nat),
    (compactItems js).flatMap (fun p => ",".toList ++ p.toList) ++ "]".toList
      = itemTailText .tight depth js
  | [], _ => rfl
  | j :: js, depth => by
    have first := toList_compact j (depth + 1)
    have rest := flatMap_compactItems js depth
    rw [compactItems, List.flatMap_cons, List.append_assoc, rest, first, List.append_assoc,
      itemTailText, Spacing.line_tight, List.nil_append]
    rfl

theorem flatMap_compactFields : ∀ (fs : List (String × Json)) (depth : Nat),
    (compactFields fs).flatMap (fun p => ",".toList ++ p.toList) ++ "\x7d".toList
      = fieldTailText .tight depth fs
  | [], _ => rfl
  | (k, j) :: fs, depth => by
    have first := toList_compact j (depth + 1)
    have rest := flatMap_compactFields fs depth
    rw [compactFields, List.flatMap_cons, List.append_assoc, rest, String.toList_append,
      String.toList_append, first, List.append_assoc, List.append_assoc, List.append_assoc,
      fieldTailText, Spacing.line_tight, Spacing.gap_tight, List.nil_append, List.nil_append]
    rfl

end

theorem toList_newLine (depth : Nat) : (newLine depth).toList = Spacing.wide.line depth := by
  simp [newLine, Spacing.wide]

theorem toList_spread_nil (depth : Nat) (opening closing : String) :
    (spread depth opening closing []).toList = opening.toList ++ closing.toList :=
  String.toList_append

theorem toList_spread_cons (depth : Nat) (opening closing part : String) (parts : List String) :
    (spread depth opening closing (part :: parts)).toList
      = opening.toList ++ (Spacing.wide.line (depth + 1) ++ (part.toList
        ++ (parts.flatMap (fun p => [','] ++ (Spacing.wide.line (depth + 1) ++ p.toList))
          ++ (Spacing.wide.line depth ++ closing.toList)))) := by
  have separator : ("," ++ newLine (depth + 1)).toList
      = [','] ++ Spacing.wide.line (depth + 1) := by
    rw [String.toList_append, toList_newLine]
    rfl
  have given : (part :: parts).isEmpty = false := rfl
  simp only [spread, given, Bool.false_eq_true, if_false, String.toList_append, toList_newLine,
    toList_intercalate_cons, separator, List.append_assoc]

mutual

/-- The pretty form has a line for each part. -/
theorem toList_prettyAt : ∀ (j : Json) (depth : Nat),
    (prettyAt depth j).toList = textOf .wide depth j
  | .null, _ => rfl
  | .bool _, _ => rfl
  | .num _, _ => rfl
  | .str _, _ => rfl
  | .unreadable, _ => rfl
  | .arr [], depth => toList_spread_nil depth _ _
  | .arr (j :: js), depth => by
    have first := toList_prettyAt j (depth + 1)
    have rest := flatMap_prettyItems js depth
    rw [prettyAt, prettyItems, toList_spread_cons, rest, first, textOf]
    rfl
  | .obj [], depth => toList_spread_nil depth _ _
  | .obj ((k, j) :: fs), depth => by
    have first := toList_prettyAt j (depth + 1)
    have rest := flatMap_prettyFields fs depth
    rw [prettyAt, prettyFields, toList_spread_cons, rest, String.toList_append,
      String.toList_append, first, List.append_assoc, List.append_assoc, textOf]
    rfl

theorem flatMap_prettyItems : ∀ (js : List Json) (depth : Nat),
    (prettyItems (depth + 1) js).flatMap
        (fun p => [','] ++ (Spacing.wide.line (depth + 1) ++ p.toList))
      ++ (Spacing.wide.line depth ++ "]".toList) = itemTailText .wide depth js
  | [], _ => rfl
  | j :: js, depth => by
    have first := toList_prettyAt j (depth + 1)
    have rest := flatMap_prettyItems js depth
    rw [prettyItems, List.flatMap_cons, List.append_assoc, rest, first, List.append_assoc,
      List.append_assoc, itemTailText]

theorem flatMap_prettyFields : ∀ (fs : List (String × Json)) (depth : Nat),
    (prettyFields (depth + 1) fs).flatMap
        (fun p => [','] ++ (Spacing.wide.line (depth + 1) ++ p.toList))
      ++ (Spacing.wide.line depth ++ "\x7d".toList) = fieldTailText .wide depth fs
  | [], _ => rfl
  | (k, j) :: fs, depth => by
    have first := toList_prettyAt j (depth + 1)
    have rest := flatMap_prettyFields fs depth
    rw [prettyFields, List.flatMap_cons, List.append_assoc, rest, String.toList_append,
      String.toList_append, first, List.append_assoc, List.append_assoc, List.append_assoc,
      List.append_assoc, fieldTailText]
    rfl

end

/-- What is written for a sound document is cut into its lexemes. -/
theorem scans_compact {j : Json} (sound : IsSound j) : Scans (compact j).toList (lexemesOf j) := by
  rw [toList_compact j 0]
  exact scans_textOf .tight sound 0

theorem scans_pretty {j : Json} (sound : IsSound j) : Scans (pretty j).toList (lexemesOf j) := by
  rw [pretty, toList_prettyAt]
  exact scans_textOf .wide sound 0

end DesignTokens.Json
