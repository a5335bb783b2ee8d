import DesignTokens.Export.Literal
import Mathlib.Data.List.Basic

/-!
# Quoted texts

A literal in single quotes goes on to the first quote that no backslash stands in front of.
Whatever a text is, its quoted form ends at the last quote and its escapes stand for the text.
A literal may not go over the end of a line, however, and quoting leaves line breaks as they
are, so that the quoted form of a text is a literal just if the text stands on one line.

Key definitions:

* `closing?` reads a literal behind its opening quote.
* `delimited?` reads a literal with any characters in it.
* `literal?` reads a literal that stands on one line.
-/

namespace DesignTokens.TokenSet

/-! ## Reading literals -/

/-- Whether a character ends the line of a literal. -/
def isLineBreak (c : Char) : Bool := c == '\n' || c == '\r'

/-- The character that a backslash and another one stand for.  With a digit and with two
letters an escape by number starts, and a backslash at the end of a line stands for
nothing; none of them is read. -/
def unescaped? (c : Char) : Option Char :=
  match c with
  | 'b' => some '\x08'
  | 't' => some '\t'
  | 'n' => some '\n'
  | 'v' => some '\x0b'
  | 'f' => some '\x0c'
  | 'r' => some '\r'
  | c => if c.isDigit || ['x', 'u', '\n', '\r', '\u2028', '\u2029'].contains c then none else some c

/-- The text in front of the closing quote of a literal, and what stands behind the quote.
Some characters are refused unless they are escaped. -/
def closing? (refused : Char → Bool) : List Char → Option (List Char × List Char)
  | [] => none
  | '\'' :: rest => some ([], rest)
  | '\\' :: c :: rest =>
    (unescaped? c).bind fun d => (closing? refused rest).map fun found => (d :: found.1, found.2)
  | c :: rest =>
    if c = '\\' || refused c then none
    else (closing? refused rest).map fun found => (c :: found.1, found.2)

/-- The text of the literal that a source starts with, and what stands behind the literal. -/
def literalOf? (refused : Char → Bool) : List Char → Option (String × List Char)
  | '\'' :: rest => (closing? refused rest).map fun found => (String.ofList found.1, found.2)
  | _ => none

/-- Reads a literal from the opening quote to the closing one, whatever stands between
them. -/
def delimited? : List Char → Option (String × List Char) := literalOf? fun _ => false

/-- Reads a literal that stands on one line. -/
def literal? : List Char → Option (String × List Char) := literalOf? isLineBreak

/-! ## Quoted forms -/

section Closing

variable {refused : Char → Bool}

/-- A quoted character is read as the character, unless it is refused as it stands. -/
theorem closing?_quoteChar (backslash : refused '\\' = false) (quote : refused '\'' = false)
    (c : Char) (rest : List Char) :
    closing? refused (quoteChar c ++ rest) =
      if refused c then none
      else (closing? refused rest).map fun found => (c :: found.1, found.2) := by
  unfold quoteChar
  split
  · rw [backslash]
    rfl
  · rw [quote]
    rfl
  · rename_i other notBackslash notQuote
    have plain : (c = '\\' || refused c) = refused c := by
      rw [decide_eq_false notBackslash, Bool.false_or]
    rw [List.singleton_append, closing?, plain]
    · exact notQuote
    · exact fun d rest same => absurd same notBackslash

/-- What is quoted is read up to the quote that closes the literal. -/
theorem closing?_quoted (backslash : refused '\\' = false) (quote : refused '\'' = false)
    (text rest : List Char) :
    closing? refused (text.flatMap quoteChar ++ '\'' :: rest) =
      if text.any refused then none else some (text, rest) := by
  induction text with
  | nil => rfl
  | cons c cs ih =>
    rw [List.flatMap_cons, List.append_assoc, closing?_quoteChar backslash quote, ih, List.any_cons]
    cases refused c <;> cases cs.any refused <;> rfl

theorem toList_quote (text : String) :
    (quote text).toList = '\'' :: (text.toList.flatMap quoteChar ++ ['\'']) := by
  simp [quote]

theorem literalOf?_quote (backslash : refused '\\' = false) (single : refused '\'' = false)
    (text : String) (rest : List Char) :
    literalOf? refused ((quote text).toList ++ rest) =
      if text.toList.any refused then none else some (text, rest) := by
  rw [toList_quote, List.cons_append, List.append_assoc, literalOf?, List.singleton_append,
    closing?_quoted backslash single]
  split
  · rfl
  · rw [Option.map_some, String.ofList_toList]

end Closing

theorem delimited?_quote (text : String) (rest : List Char) :
    delimited? ((quote text).toList ++ rest) = some (text, rest) := by
  have none : text.toList.any (fun _ => false) = false := by simp
  rw [delimited?, literalOf?_quote rfl rfl, none]
  rfl

theorem literal?_quote (text : String) (rest : List Char) :
    literal? ((quote text).toList ++ rest) =
      if text.toList.any isLineBreak then none else some (text, rest) :=
  literalOf?_quote rfl rfl text rest

/-- Escapes are made of no line breaks. -/
theorem mem_flatMap_quoteChar_iff {text : List Char} {c : Char} (lineBreak : isLineBreak c = true) :
    c ∈ text.flatMap quoteChar ↔ c ∈ text := by
  have each (d : Char) : c ∈ quoteChar d ↔ d = c := by
    have notBackslash : c ≠ '\\' := by
      rintro rfl
      cases lineBreak
    have notQuote : c ≠ '\'' := by
      rintro rfl
      cases lineBreak
    unfold quoteChar
    split
    · simp [notBackslash, notBackslash.symm]
    · simp [notBackslash, notQuote, notQuote.symm]
    · rw [List.mem_singleton, eq_comm]
  rw [List.mem_flatMap]
  simp only [each]
  exact ⟨fun ⟨d, member, same⟩ => same ▸ member, fun member => ⟨c, member, rfl⟩⟩

/-- Between the quotes of a quoted text stand just the line breaks of the text.  The literal
ends at the last quote and is read as the text, whatever stands behind it.  As a literal on
one line it is read just if the text has no line break, and otherwise it is none. -/
theorem literal?_quote_iff (text : String) (rest : List Char) :
    (∃ inner, (quote text).toList = '\'' :: (inner ++ ['\'']) ∧
      ∀ c, isLineBreak c = true → (c ∈ inner ↔ c ∈ text.toList)) ∧
    delimited? ((quote text).toList ++ rest) = some (text, rest) ∧
    (literal? ((quote text).toList ++ rest) = some (text, rest) ↔
      '\n' ∉ text.toList ∧ '\r' ∉ text.toList) ∧
    (literal? ((quote text).toList ++ rest) = none ↔
      '\n' ∈ text.toList ∨ '\r' ∈ text.toList) := by
  have broken : text.toList.any isLineBreak = true ↔ '\n' ∈ text.toList ∨ '\r' ∈ text.toList := by
    simp only [List.any_eq_true, isLineBreak, Bool.or_eq_true, beq_iff_eq]
    constructor
    · rintro ⟨c, member, rfl | rfl⟩
      · exact .inl member
      · exact .inr member
    · rintro (member | member)
      · exact ⟨_, member, .inl rfl⟩
      · exact ⟨_, member, .inr rfl⟩
  refine ⟨⟨_, toList_quote text, fun c => mem_flatMap_quoteChar_iff⟩, delimited?_quote text rest,
    ?_, ?_⟩
  · rw [literal?_quote, ← not_or, ← broken]
    split <;> simp [*]
  · rw [literal?_quote, ← broken]
    split <;> simp [*]

/-- The name of a font family on two lines is quoted as it stands, and no literal comes of
it. -/
theorem literal?_quote_twoLines :
    (quote "Inter\nBold").toList = "'Inter\nBold'".toList ∧
      literal? (quote "Inter\nBold").toList = none := by
  decide

end DesignTokens.TokenSet
