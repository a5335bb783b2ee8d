import DesignTokens.Decimal.Layout

/-!
# Segments of token ids

The id of a token spells out the names of the nodes that lead to it, with a
slash between them.  Characters that would be mistaken for a part of the id are
escaped, and a name that came up before among its siblings gets a number.

Key definitions: `Segment.escape`, `Segment.numbered`.
-/

namespace DesignTokens.Segment

/-- The form of a character inside a segment. -/
def escapeChar (c : Char) : List Char :=
  match c with
  | '%' => ['%', '2', '5']
  | '/' => ['%', '2', 'F']
  | '#' => ['%', '2', '3']
  | c => [c]

/-- The form of a name inside a segment. -/
def escape (name : String) : String := String.ofList (name.toList.flatMap escapeChar)

/-- The segment of a node whose name came up `earlier` times among the siblings
before it. -/
def numbered (earlier : Nat) (name : String) : String :=
  if earlier = 0 then escape name
  else escape name ++ "#" ++ Decimal.wholeText earlier

/-- The segments of siblings.  `seen` are the names before them. -/
def ofSiblings (seen : List String) : List String → List String
  | [] => []
  | name :: names => numbered (seen.count name) name :: ofSiblings (name :: seen) names

end DesignTokens.Segment
