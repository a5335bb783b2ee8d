import DesignTokens.Naming.Slug
import DesignTokens.Text.Cluster

/-!
# Identifiers of display names

Generated source files refer to a component or token by an identifier made of
the words of its slug.  The hyphens go and capitals take over their part.

Key definitions:

* `slugWords` cuts a slug at its hyphens.
* `capitalize` puts a word's first character into upper case.
* `guarded` keeps an identifier from starting with a digit.
* `camel` and `pascal` are the two styles of identifiers.
-/

namespace DesignTokens.Naming

open DesignTokens.Text

/-! ## Words of a slug -/

/-- Collects clusters into words.  A hyphen ends the word before it; the word
under construction is `current`. -/
def splitClusters (current : List Char) : List (List Char) → List (List Char)
  | [] => [current]
  | g :: gs =>
    if g = ['-'] then current :: splitClusters [] gs else splitClusters (current ++ g) gs

/-- The words between the hyphens of a slug.  A hyphen that carries a mark is
part of a larger cluster and does not separate. -/
def slugWords (slug : List Char) : List (List Char) :=
  (splitClusters [] (clusters slug)).filter (fun w => !w.isEmpty)

/-! ## Identifiers -/

/-- A word with its first character in upper case and the others in lower
case. -/
def capitalize : List Char → List Char
  | [] => []
  | c :: cs => uppercaseChar c ++ lowercase cs

/-- The words run together, each with a capital. -/
def pascalWords (ws : List (List Char)) : List Char := ws.flatMap capitalize

/-- The words run together, each but the first with a capital. -/
def camelWords : List (List Char) → List Char
  | [] => []
  | w :: ws => lowercase w ++ pascalWords ws

/-- Whether a character may start an identifier. -/
def startsIdentifier (c : Char) : Bool := isLetter c || isLetterNumber c

/-- An identifier starts with a letter; any other gets an underscore. -/
def guarded (identifier : List Char) : List Char :=
  match identifier with
  | [] => ['_']
  | c :: cs => if startsIdentifier c then c :: cs else '_' :: c :: cs

/-- The camel case identifier of a name as a list of characters. -/
def camelChars (name : List Char) : List Char :=
  guarded (camelWords (slugWords (kebabChars name)))

/-- The Pascal case identifier of a name as a list of characters. -/
def pascalChars (name : List Char) : List Char :=
  guarded (pascalWords (slugWords (kebabChars name)))

/-- The camel case identifier of a display name, such as `primaryButton`. -/
def camel (name : String) : String := String.ofList (camelChars name.toList)

/-- The Pascal case identifier of a display name, such as `PrimaryButton`. -/
def pascal (name : String) : String := String.ofList (pascalChars name.toList)

end DesignTokens.Naming
