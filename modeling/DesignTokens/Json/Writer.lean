import DesignTokens.Json.Basic
import DesignTokens.Decimal.Layout

/-!
# Writing JSON

Documents are written compactly, without any blank, or spread over lines with
two spaces for each open bracket.

Key definitions:

* `numberLayout` holds the choices for doubles.
* `escape` writes the characters of a string.
* `Json.compact` and `Json.pretty` write a document.
-/

namespace DesignTokens.Json

/-! ## Numbers and strings -/

/-- Doubles keep a point behind whole numbers.  From `1e+16` on and below
`0.00001` they have an exponent, and a half goes to the even digit. -/
def numberLayout : Decimal.Layout where
  positional := fun e => -5 ≤ e && e < 16
  wholeEnd := ".0"
  tie := .even

/-- The text of an integer. -/
def integerText (n : Int) : String :=
  match n with
  | .ofNat m => Decimal.wholeText m
  | .negSucc m => "-" ++ Decimal.wholeText (m + 1)

/-- The text of a number.  JSON has no infinities. -/
def Number.text : Number → String
  | .whole n => integerText n
  | .real x => if Decimal.isFinite x then numberLayout.text x else "null"

/-- A hexadecimal digit. -/
def hexDigit (n : Nat) : Char := Nat.digitChar n

/-- The form of a character inside quotes.  Only quotes, backslashes and control
characters change. -/
def escapeChar (c : Char) : List Char :=
  match c with
  | '"' => ['\\', '"']
  | '\\' => ['\\', '\\']
  | '\x08' => ['\\', 'b']
  | '\t' => ['\\', 't']
  | '\n' => ['\\', 'n']
  | '\x0c' => ['\\', 'f']
  | '\r' => ['\\', 'r']
  | c =>
    if c.toNat < 0x20 then
      ['\\', 'u', '0', '0', hexDigit (c.toNat / 16), hexDigit (c.toNat % 16)]
    else [c]

/-- The form of a text inside quotes. -/
def escape (cs : List Char) : List Char := cs.flatMap escapeChar

/-- A string literal. -/
def quote (s : String) : String := "\"" ++ String.ofList (escape s.toList) ++ "\""

/-! ## Compact form -/

mutual

/-- The text of a document without blanks. -/
def compact : Json → String
  | .null => "null"
  | .bool b => if b then "true" else "false"
  | .num n => n.text
  | .str s => quote s
  | .arr items => "[" ++ ",".intercalate (compactItems items) ++ "]"
  | .obj fields => "\x7b" ++ ",".intercalate (compactFields fields) ++ "\x7d"
  | .unreadable => "null"

/-- The texts of the items of an array. -/
def compactItems : List Json → List String
  | [] => []
  | j :: js => compact j :: compactItems js

/-- The texts of the fields of an object. -/
def compactFields : List (String × Json) → List String
  | [] => []
  | (k, j) :: fs => (quote k ++ ":" ++ compact j) :: compactFields fs

end

/-! ## Pretty form -/

/-- The start of a line inside `depth` brackets. -/
def newLine (depth : Nat) : String := "\n" ++ String.ofList (List.replicate (2 * depth) ' ')

/-- A bracket around parts on lines of their own.  An empty one takes no
lines. -/
def spread (depth : Nat) (opening closing : String) (parts : List String) : String :=
  if parts.isEmpty then opening ++ closing
  else opening ++ newLine (depth + 1) ++ ("," ++ newLine (depth + 1)).intercalate parts
    ++ newLine depth ++ closing

mutual

/-- The text of a document inside `depth` brackets, one item or field a line. -/
def prettyAt (depth : Nat) : Json → String
  | .null => "null"
  | .bool b => if b then "true" else "false"
  | .num n => n.text
  | .str s => quote s
  | .arr items => spread depth "[" "]" (prettyItems (depth + 1) items)
  | .obj fields => spread depth "\x7b" "\x7d" (prettyFields (depth + 1) fields)
  | .unreadable => "null"

/-- The texts of the items of an array. -/
def prettyItems (depth : Nat) : List Json → List String
  | [] => []
  | j :: js => prettyAt depth j :: prettyItems depth js

/-- The texts of the fields of an object. -/
def prettyFields (depth : Nat) : List (String × Json) → List String
  | [] => []
  | (k, j) :: fs => (quote k ++ ": " ++ prettyAt depth j) :: prettyFields depth fs

end

/-- The text of a document spread over lines. -/
def pretty (j : Json) : String := prettyAt 0 j

end DesignTokens.Json
