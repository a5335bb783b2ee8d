import DesignTokens.Naming.Identifier
import DesignTokens.Text.Lines
import DesignTokens.TokenSet.Basic

/-!
# Token sets as literals

A token set is exported as an object literal of TypeScript.

Key definitions: `TokenSet.quote`, `TokenSet.typescript`.
-/

namespace DesignTokens.TokenSet

/-- The form of a character in single quotes. -/
def quoteChar (c : Char) : List Char :=
  match c with
  | '\\' => ['\\', '\\']
  | '\'' => ['\\', '\'']
  | c => [c]

/-- A string literal in single quotes. -/
def quote (s : String) : String :=
  "'" ++ String.ofList (s.toList.flatMap quoteChar) ++ "'"

/-- The lines of a map from names to texts. -/
def textLines (m : OrderedMap String String) : List String :=
  m.entries.map (fun entry => "    " ++ Naming.camel entry.1 ++ ": " ++ quote entry.2 ++ ",")

/-- The lines of a text style. -/
def entryLines (name : String) (e : TypographyEntry) : List String :=
  ["    " ++ Naming.camel name ++ ": \x7b",
    "      fontFamily: " ++ quote e.fontFamily ++ ",",
    "      fontSize: " ++ quote e.fontSize ++ ",",
    "      fontWeight: " ++ Decimal.wholeText e.fontWeight.toNat ++ ",",
    "      lineHeight: " ++ Css.number e.lineHeight ++ ",",
    "      letterSpacing: " ++ quote e.letterSpacing ++ ",",
    "    \x7d,"]

/-- The block of a map.  An empty map has none. -/
def block (kind : String) (lines : List String) : List (List String) :=
  if lines.isEmpty then [] else [["  " ++ kind ++ ": \x7b"] ++ lines ++ ["  \x7d,"]]

/-- The blocks of a token set. -/
def blocks (s : TokenSet) : List (List String) :=
  block "colors" (textLines s.colors)
    ++ block "typography" (s.typography.entries.flatMap (fun e => entryLines e.1 e.2))
    ++ block "spacing" (textLines s.spacing)
    ++ block "shadows" (textLines s.shadows)

/-- A token set as an object literal, with an empty line between its blocks. -/
def typescript (s : TokenSet) : String :=
  Text.unlines <|
    ["export const tokens = \x7b"] ++ List.intercalate [""] s.blocks
      ++ ["\x7d as const;", "", "export type DesignTokens = typeof tokens;"]

end DesignTokens.TokenSet
