import DesignTokens.Template.Reader
import Mathlib.Data.List.Basic

/-!
# Templates read back

A template is written with its places between double braces.  Where no text of it
can be taken for a tag, and no place for anything but a field, reading gives the
template back.
-/

namespace DesignTokens

namespace Template

/-! ## Text -/

/-- Whether a text has no backslash and no two braces in a row. -/
def isFlat : List Char → Bool
  | [] => true
  | c :: cs => c ≠ '\\' && (c ≠ '{' || cs.head? ≠ some '{') && isFlat cs

theorem isFlat_cons {c : Char} {cs : List Char} (flat : isFlat (c :: cs) = true) :
    c ≠ '\\' ∧ (c = '{' → cs.head? ≠ some '{') ∧ isFlat cs = true := by
  simpa [isFlat, and_assoc, imp_iff_not_or] using flat

theorem plainText_cons {c : Char} {cs : List Char} (slash : c ≠ '\\')
    (single : c = '{' → cs.head? ≠ some '{') :
    plainText 0 (c :: cs) = (c :: (plainText 0 cs).1, (plainText 0 cs).2) := by
  rw [plainText]
  · rfl
  · exact slash
  · rintro rest rfl rfl
    exact single rfl rfl

/-- The last text of a template is read to its end. -/
theorem plainText_of_isFlat {shown : List Char} (flat : isFlat shown = true) :
    plainText 0 shown = (shown, []) := by
  induction shown with
  | nil => rfl
  | cons c cs ih =>
    obtain ⟨slash, single, rest⟩ := isFlat_cons flat
    rw [plainText_cons slash single, ih rest]

/-- A text in front of a tag is read as far as the tag. -/
theorem plainText_append {shown : List Char} (flat : isFlat (shown ++ ['{']) = true)
    (rest : List Char) :
    plainText 0 (shown ++ '{' :: '{' :: rest) = (shown, '{' :: '{' :: rest) := by
  induction shown with
  | nil => rfl
  | cons c cs ih =>
    obtain ⟨slash, single, flat⟩ := isFlat_cons flat
    rw [List.cons_append, plainText_cons slash, ih flat]
    simpa [List.head?_append] using single

/-! ## Fields -/

/-- Whether a name in a tag can only be that of a field: it does not start with a word to which
tags give a meaning. -/
def isFieldName (name : List Char) : Bool :=
  !name.isEmpty && name.all isNameChar && !"this".toList.isPrefixOf name
    && !"else".toList.isPrefixOf name

variable {name rest : List Char}

theorem cutWhile_append {p : Char → Bool} {c : Char} (inside : name.all p = true)
    (outside : p c = false) : cutWhile p (name ++ c :: rest) = (name, c :: rest) := by
  rw [List.all_eq_true] at inside
  rw [cutWhile, List.takeWhile_append_of_pos inside, List.dropWhile_append_of_pos inside,
    List.takeWhile_cons_of_neg (by simp [outside]), List.dropWhile_cons_of_neg (by simp [outside]),
    List.append_nil]

theorem many_of_none {α : Type} {read? : List Char → Option (α × List Char)} {cs : List Char}
    (none : read? cs = none) : many read? cs = ([], cs) := by
  rw [many, none]

/-- A word in front of a tag's end is a word of the name there. -/
theorem prefix_of_prefix_append {word : List Char} (plain : '}' ∉ word)
    (start : word <+: name ++ '}' :: rest) : word <+: name := by
  have close : name ++ ['}'] <+: name ++ '}' :: rest := by
    rw [List.prefix_append_right_inj]
    exact ⟨rest, rfl⟩
  rcases List.prefix_or_prefix_of_prefix start close with inside | beyond
  · rcases List.prefix_concat_iff.mp inside with whole | inside
    · exact absurd (by simp [whole]) plain
    · exact inside
  · exact absurd (beyond.subset (by simp)) plain

section Field

variable (field : isFieldName name = true)
include field

theorem isNameChar_of_isFieldName : name.all isNameChar = true := by
  simp only [isFieldName, Bool.and_eq_true] at field
  exact field.1.1.2

/-- A tag with a field starts with a character of names. -/
theorem isNameChar_of_eq_cons {c : Char} {cs : List Char} (same : name ++ '}' :: rest = c :: cs) :
    isNameChar c = true := by
  have inside := isNameChar_of_isFieldName field
  cases name with
  | nil => cases field
  | cons d ds =>
    rw [List.all_cons, Bool.and_eq_true] at inside
    cases same
    exact inside.1

theorem not_prefix_of_isFieldName {word : String} (known : word = "this" ∨ word = "else") :
    ¬ word.toList <+: name ++ '}' :: rest := by
  simp only [isFieldName, Bool.and_eq_true, Bool.not_eq_true', ← Bool.not_eq_true,
    List.isPrefixOf_iff_prefix] at field
  intro start
  rcases known with rfl | rfl
  · exact field.1.2 (prefix_of_prefix_append (by decide) start)
  · exact field.2 (prefix_of_prefix_append (by decide) start)

theorem startsName_field : startsName (name ++ '}' :: rest) = true := by
  cases same : name ++ '}' :: rest with
  | nil => simp at same
  | cons c cs => exact isNameChar_of_eq_cons field same

theorem skipBlanks_field : skipBlanks (name ++ '}' :: rest) = name ++ '}' :: rest := by
  cases same : name ++ '}' :: rest with
  | nil => rfl
  | cons c cs =>
    have start := isNameChar_of_eq_cons field same
    rw [skipBlanks, List.dropWhile_cons_of_neg]
    intro blank
    simp only [isTagBlank, Bool.or_eq_true, decide_eq_true_eq] at blank
    rcases blank with ((rfl | rfl) | rfl) | rfl <;> cases start

theorem skipWhole_field : skipWhole (name ++ '}' :: rest) = name ++ '}' :: rest := by
  rw [skipWhole.eq_def]
  split
  · rename_i same
    cases isNameChar_of_eq_cons field same
  · rename_i same
    exact absurd ⟨_, same.symm⟩ (not_prefix_of_isFieldName field (.inl rfl))
  · rfl

theorem skipRoot_field : skipRoot (name ++ '}' :: rest) = name ++ '}' :: rest := by
  rw [skipRoot.eq_def]
  split
  · rename_i same
    cases isNameChar_of_eq_cons field same
  · rfl

theorem cutMark_field : cutMark '@' (name ++ '}' :: rest) = ([], name ++ '}' :: rest) := by
  cases same : name ++ '}' :: rest with
  | nil => rfl
  | cons c cs =>
    rw [cutMark, if_neg]
    rintro rfl
    cases isNameChar_of_eq_cons field same

theorem skipOutward_field : skipOutward (name ++ '}' :: rest) = name ++ '}' :: rest := by
  rw [skipOutward.eq_def]
  split
  · rename_i same
    cases isNameChar_of_eq_cons field same
  · rfl

theorem step?_field : step? (name ++ '}' :: rest) = some (name, '}' :: rest) := by
  rw [step?.eq_def]
  split
  · rename_i same
    cases isNameChar_of_eq_cons field same
  · rw [name?, if_pos (startsName_field field),
      cutWhile_append (isNameChar_of_isFieldName field) rfl]

theorem stepNames_field : stepNames [name] = [String.ofList name] := by
  have other : String.ofList name ≠ "this" := by
    intro same
    have whole : name = "this".toList := by rw [← same, String.toList_ofList]
    have other : ¬ "this".toList <+: name ++ ['}'] := not_prefix_of_isFieldName field (.inl rfl)
    exact other ⟨['}'], by rw [whole]⟩
  simp [stepNames, other]

theorem reference?_field :
    reference? (name ++ '}' :: rest) = some (.ofField (String.ofList name), '}' :: rest) := by
  have more : many nextStep? ('}' :: rest) = ([], '}' :: rest) := many_of_none rfl
  have written : (name ++ '}' :: rest).take ((name ++ '}' :: rest).length - ('}' :: rest).length)
      = name := by
    rw [List.length_append, Nat.add_sub_cancel, List.take_left]
  simp only [reference?, skipWhole_field field, skipRoot_field field, cutMark_field field,
    skipOutward_field field, step?_field field, more, stepNames_field field, written,
    Option.bind_eq_bind, Option.bind_some]
  rfl

theorem content?_field :
    content? (name ++ '}' :: rest)
      = some (.field (.ofField (String.ofList name)), '}' :: rest) := by
  have inside : name.all (fun c => isNameChar c || c = '/') = true := by
    rw [List.all_eq_true]
    intro c member
    rw [List.all_eq_true.mp (isNameChar_of_isFieldName field) c member]
    rfl
  have helper : helperName? (name ++ '}' :: rest) = some (String.ofList name, '}' :: rest) := by
    rw [helperName?, if_pos (startsName_field field), cutWhile_append inside rfl]
  have parts : many callPart? ('}' :: rest) = ([], '}' :: rest) := many_of_none rfl
  rw [content?, helper]
  simp only [parts, reference?_field field]
  rfl

theorem isBranch_field : isBranch ('{' :: '{' :: (name ++ '}' :: rest)) = false := by
  have close : close? ['e', 'l', 's', 'e'] (name ++ '}' :: rest) = none := by
    rw [close?, skipBlanks_field field, mark?, Option.eq_none_iff_forall_ne_some]
    intro more found
    have start := List.isPrefixOf?_eq_some_iff_append_eq.mp found
    exact not_prefix_of_isFieldName field (.inr rfl) ⟨more, start⟩
  rw [isBranch]
  have opened : mark? ['{', '{'] ('{' :: '{' :: (name ++ '}' :: rest))
      = some (name ++ '}' :: rest) := rfl
  rw [opened, Option.bind_some, close]

/-- A name between double braces is read as the place of a field. -/
theorem tag?_field :
    tag? ('{' :: '{' :: (name ++ '}' :: '}' :: rest))
      = some (.field (.ofField (String.ofList name)), rest) := by
  have enclosed : enclosed? ['{', '{'] ['}', '}'] ('{' :: '{' :: (name ++ '}' :: '}' :: rest))
      = some (.field (.ofField (String.ofList name)), rest) := by
    have opened : mark? ['{', '{'] ('{' :: '{' :: (name ++ '}' :: '}' :: rest))
        = some (name ++ '}' :: '}' :: rest) := rfl
    have closed : close? ['}', '}'] ('}' :: '}' :: rest) = some rest := rfl
    simp only [enclosed?, opened, skipBlanks_field field, content?_field field, closed,
      Option.bind_eq_bind, Option.bind_some]
    rfl
  rw [tag?, isBranch_field field, if_neg Bool.false_ne_true, enclosed]
  rfl

end Field

/-! ## Templates -/

/-- Whether a reference in a tag is to a field. -/
def isPlace (target : Reference) : Bool :=
  target = .ofField target.written && isFieldName target.written.toList

theorem eq_ofField_of_isPlace {target : Reference} (place : isPlace target = true) :
    target = .ofField (String.ofList target.written.toList) ∧
      isFieldName target.written.toList = true := by
  rw [isPlace, Bool.and_eq_true, decide_eq_true_eq] at place
  rwa [String.ofList_toList]

end Template

/-- The text of a piece in a template. -/
def Piece.written : Piece → List Char
  | .text shown => shown.toList
  | .field target => '{' :: '{' :: (target.written.toList ++ ['}', '}'])
  | .call _ _ _ => []

namespace Template

/-- Whether pieces are texts and places of fields, where no two texts come in a row and none
has a tag in it. -/
def isReadable : List Piece → Bool
  | [] => true
  | [.text shown] => shown ≠ "" && isFlat shown.toList
  | .text shown :: .field target :: ps =>
    shown ≠ "" && isFlat (shown.toList ++ ['{']) && isPlace target && isReadable ps
  | .field target :: ps => isPlace target && isReadable ps
  | _ => false

theorem textPiece_toList {shown : String} (given : shown ≠ "") :
    textPiece shown.toList = [.text shown] := by
  rw [textPiece, if_neg, String.ofList_toList]
  simpa using given

/-- A tag behind a text is read together with the text. -/
theorem pieces?_append {shown : List Char} {target : Reference} {ps : List Piece}
    {rest : List Char} (flat : isFlat (shown ++ ['{']) = true) (place : isPlace target = true)
    (read : pieces? rest = some ps) :
    pieces? (shown ++ ((Piece.field target).written ++ rest))
      = some (textPiece shown ++ .field target :: ps) := by
  obtain ⟨own, field⟩ := eq_ofField_of_isPlace place
  have text : shown ++ ((Piece.field target).written ++ rest)
      = shown ++ '{' :: '{' :: (target.written.toList ++ '}' :: '}' :: rest) := by
    simp [Piece.written]
  have shorter : rest.length
      < (shown ++ '{' :: '{' :: (target.written.toList ++ '}' :: '}' :: rest)).length := by
    simp only [List.length_append, List.length_cons]
    omega
  rw [text, pieces?, plainText_append flat]
  simp only [tag?_field field, shorter, read, ← own]
  rfl

/-- Pieces are read back from their text. -/
theorem pieces?_written {ps : List Piece} (readable : isReadable ps = true) :
    pieces? (ps.flatMap Piece.written) = some ps := by
  fun_induction isReadable ps with
  | case1 => rw [List.flatMap_nil, pieces?]; rfl
  | case2 shown =>
    rw [Bool.and_eq_true, decide_eq_true_eq] at readable
    rw [List.flatMap_singleton, Piece.written, pieces?, plainText_of_isFlat readable.2]
    simp only [textPiece_toList readable.1]
    rfl
  | case3 shown target ps ih =>
    simp only [Bool.and_eq_true, decide_eq_true_eq] at readable
    obtain ⟨⟨⟨given, flat⟩, place⟩, readable⟩ := readable
    rw [List.flatMap_cons, List.flatMap_cons]
    have read := pieces?_append flat place (ih readable)
    rwa [textPiece_toList given] at read
  | case4 target ps ih =>
    rw [Bool.and_eq_true] at readable
    exact @pieces?_append [] target ps _ rfl readable.1 (ih readable.2)
  | case5 => cases readable

/-- A template is read back from its text. -/
theorem read?_written {t : Template} {text : String} (readable : isReadable t.pieces = true)
    (written : text.toList = t.pieces.flatMap Piece.written) : read? text = some t := by
  rw [read?, written, pieces?_written readable]
  rfl

end Template

end DesignTokens
