import DesignTokens.Text.Mark

/-!
# Lines of text

Generated files are written line by line, and a tidy file has no blanks that
nobody sees.

Key definitions:

* `unlines` joins lines, each with a line feed behind it.
* `splitLines` cuts a text at its line feeds.
* `tidy` drops the blanks at line ends and needless empty lines.
-/

namespace DesignTokens.Text

/-! ## Joining and cutting -/

/-- Joins lines, each with a line feed behind it. -/
def unlines (lines : List String) : String := String.join (lines.map (· ++ "\n"))

/-- Puts a character in front of the first line. -/
def extendLine (c : Char) : List (List Char) → List (List Char)
  | [] => [[c]]
  | l :: ls => (c :: l) :: ls

/-- The lines between the line feeds of a text.  The last one may be empty. -/
def splitLines : List Char → List (List Char)
  | [] => [[]]
  | c :: cs => if c = '\n' then [] :: splitLines cs else extendLine c (splitLines cs)

/-! ## Tidy text -/

/-- A line without the blanks at its end. -/
def trimEnd (line : List Char) : List Char := (line.reverse.dropWhile isBlank).reverse

/-- Keeps one empty line of each run of them and none at the end.  `gap` tells
that empty lines came before. -/
def squeeze (gap : Bool) : List (List Char) → List (List Char)
  | [] => []
  | l :: ls =>
    if l.isEmpty then squeeze true ls
    else if gap then [] :: l :: squeeze false ls
    else l :: squeeze false ls

/-- The lines of a tidy text: no blanks at their ends, no empty line at the
start or at the end, and no two empty lines in a row. -/
def tidyLines (lines : List (List Char)) : List (List Char) :=
  squeeze false ((lines.map trimEnd).dropWhile List.isEmpty)

/-- Characters of lines, each with a line feed behind it. -/
def unlineChars (lines : List (List Char)) : List Char := lines.flatMap (· ++ ['\n'])

/-- Tidies a text as a list of characters. -/
def tidyChars (cs : List Char) : List Char := unlineChars (tidyLines (splitLines cs))

/-- Tidies a text.  The result is empty or ends with one line feed. -/
def tidy (text : String) : String := String.ofList (tidyChars text.toList)

end DesignTokens.Text
