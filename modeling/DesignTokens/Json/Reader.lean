import DesignTokens.Json.Lexeme

/-!
# Reading JSON

The second half of reading a document builds its tree from the lexemes.  The
brackets that are open wait on a stack.

Key definitions:

* `Builder` is the state between two lexemes, and `Builder.step` goes over one.
* `depthLimit` bounds how deep brackets may nest.
* `Json.read?` reads a text.
-/

namespace DesignTokens.Json

/-- Brackets nested deeper than this have no value. -/
def depthLimit : Nat := 127

/-- An open bracket with what it holds so far, in reverse order.  An object
also knows the key of the field that is being read and whether all its keys
were readable. -/
inductive Frame where
  | array (items : List Json)
  | object (fields : List (String × Json)) (readable : Bool) (key : String)
deriving Repr

/-- What may come next. -/
inductive Place where
  | value
  | firstItem
  | firstKey
  | key
  | colon
  | after
deriving Repr, DecidableEq

/-- The builder between two lexemes.  `whole` is the tree once it is complete. -/
structure Builder where
  frames : List Frame
  place : Place
  whole : Json
deriving Repr

/-- The builder before the first lexeme. -/
def Builder.start : Builder := ⟨[], .value, .null⟩

/-- Adds a finished value to the innermost open bracket. -/
def Builder.put (b : Builder) (j : Json) : Builder :=
  match b.frames with
  | [] => ⟨[], .after, j⟩
  | .array items :: frames => ⟨.array (j :: items) :: frames, .after, b.whole⟩
  | .object fields readable key :: frames =>
    ⟨.object ((key, j) :: fields) readable key :: frames, .after, b.whole⟩

/-- The value of a closed bracket at a depth. -/
def Frame.close (depth : Nat) : Frame → Json
  | .array items => if depth ≤ depthLimit then .arr items.reverse else .unreadable
  | .object fields readable _ =>
    if readable && depth ≤ depthLimit then .obj fields.reverse else .unreadable

/-- Closes the innermost bracket. -/
def Builder.close (b : Builder) : Option Builder :=
  match b.frames with
  | [] => none
  | f :: frames =>
    some (Builder.put ⟨frames, b.place, b.whole⟩ (f.close (frames.length + 1)))

/-- Goes over a lexeme where a value is due. -/
def Builder.value? (b : Builder) : Lexeme → Option Builder
  | .null => some (b.put .null)
  | .bool v => some (b.put (.bool v))
  | .num n => some (b.put ((n.map .num).getD .unreadable))
  | .str s => some (b.put ((s.map .str).getD .unreadable))
  | .openBracket => some ⟨.array [] :: b.frames, .firstItem, b.whole⟩
  | .openBrace => some ⟨.object [] true "" :: b.frames, .firstKey, b.whole⟩
  | _ => none

/-- Goes over the key of a field. -/
def Builder.key? (b : Builder) : Lexeme → Option Builder
  | .str key =>
    match b.frames with
    | .object fields readable _ :: frames =>
      some ⟨.object fields (readable && key.isSome) (key.getD "") :: frames, .colon, b.whole⟩
    | _ => none
  | _ => none

/-- Goes over one lexeme. -/
def Builder.step (b : Builder) (l : Lexeme) : Option Builder :=
  match b.place with
  | .value => b.value? l
  | .firstItem =>
    match l with
    | .closeBracket => b.close
    | _ => b.value? l
  | .firstKey =>
    match l with
    | .closeBrace => b.close
    | _ => b.key? l
  | .key => b.key? l
  | .colon =>
    match l with
    | .colon => some ⟨b.frames, .value, b.whole⟩
    | _ => none
  | .after =>
    match l, b.frames with
    | .comma, .array _ :: _ => some ⟨b.frames, .value, b.whole⟩
    | .comma, .object .. :: _ => some ⟨b.frames, .key, b.whole⟩
    | .closeBracket, .array _ :: _ => b.close
    | .closeBrace, .object .. :: _ => b.close
    | _, _ => none

/-- The tree at the end of the lexemes. -/
def Builder.finish (b : Builder) : Option Json :=
  if b.frames.isEmpty && b.place = .after then some b.whole else none

/-- The tree of a list of lexemes. -/
def ofLexemes? (ls : List Lexeme) : Option Json :=
  (ls.foldlM Builder.step .start).bind Builder.finish

/-- Reads a text as a document; `none` if it is malformed. -/
def read? (text : String) : Option Json := (lexemes? text.toList).bind ofLexemes?

/-- Reads a text as a value. -/
def readValue? (text : String) : Option Json := (read? text).bind Json.value?

end DesignTokens.Json
