import DesignTokens.Text.Letter
import DesignTokens.Text.Mark
import DesignTokens.Text.Casing

/-!
# Slugs of display names

A display name is any text.  Its slug is the form under which stylesheets and
class lists refer to it: the words of the name in lower case with hyphens
between them.

Key definitions:

* `isSlugChar` is the class of characters that a slug keeps.
* `words` cuts a name into its words.
* `spelling` writes out a name that has no words.
* `kebab` is the slug itself.
-/

namespace DesignTokens.Naming

open DesignTokens.Text

/-! ## Words -/

/-- Letters, marks and digits of any script stay in a slug; every other
character only separates words. -/
def isSlugChar (c : Char) : Bool :=
  isLetter c || isLetterNumber c || isNonspacingMark c || isSpacingMark c || isDecimalDigit c

/-- A capital after a small letter or a digit starts a new word, so that
`PrimaryButton` has two words. -/
def isWordBoundary (c d : Char) : Bool :=
  (isLowercaseLetter c || isDecimalDigit c) && isUppercaseLetter d

/-- Puts a character in front of the first word. -/
def extendWord (c : Char) : List (List Char) → List (List Char)
  | [] => [[c]]
  | w :: ws => (c :: w) :: ws

/-- The words of a name in order: the longest runs of slug characters, cut
once more at every word boundary. -/
def words : List Char → List (List Char)
  | [] => []
  | [c] => if isSlugChar c then [[c]] else []
  | c :: d :: rest =>
    if isSlugChar c then
      if isSlugChar d && !isWordBoundary c d then extendWord c (words (d :: rest))
      else [c] :: words (d :: rest)
    else words (d :: rest)

/-! ## Slugs -/

/-- Joins the parts of a slug. -/
def hyphenate (parts : List (List Char)) : List Char := List.intercalate ['-'] parts

/-- The code point of a character in hexadecimal behind the letter u. -/
def spellChar (c : Char) : List Char := 'u' :: Nat.toDigits 16 c.toNat

/-- The slug of a name without words: its characters by code point, blanks
left out.  A blank name is called `unnamed`. -/
def spelling (name : List Char) : List Char :=
  match name.filter (fun c => !isBlank c) with
  | [] => ['u', 'n', 'n', 'a', 'm', 'e', 'd']
  | shown => hyphenate (shown.map spellChar)

/-- The slug of a name as a list of characters. -/
def kebabChars (name : List Char) : List Char :=
  match words name with
  | [] => spelling name
  | ws => lowercase (hyphenate ws)

/-- The slug of a display name.  `Primary Button`, `PrimaryButton` and
`primary_button` all become `primary-button`. -/
def kebab (name : String) : String := String.ofList (kebabChars name.toList)

/-- The tag of a component: its slug behind a fixed first part. -/
def selector (first name : String) : String := first ++ "-" ++ kebab name

end DesignTokens.Naming
