import DesignTokens.Template.Word

/-!
# Reading templates

Two or three braces on each side enclose a tag.  A tag holds a reference, or the
name of a function with its arguments.

Key definitions:

* `plainText` cuts a template in front of its first tag.
* `tag?` reads a tag.
* `Template.read?` reads a template.
* `TemplateLibrary` holds templates by name.
-/

namespace DesignTokens

namespace Template

/-! ## Text -/

/-- Cuts a template in front of its first tag.  One backslash in front of two
braces makes them text; of several one is dropped, and the tag follows.
`slashes` counts the backslashes just before. -/
def plainText (slashes : Nat) : List Char → List Char × List Char
  | [] => (List.replicate slashes '\\', [])
  | '\\' :: cs => plainText (slashes + 1) cs
  | '{' :: '{' :: cs =>
    match slashes, cs with
    | 0, _ => ([], '{' :: '{' :: cs)
    | 1, '{' :: '{' :: cs =>
      let (shown, rest) := plainText 0 cs
      ('{' :: '{' :: '{' :: '{' :: shown, rest)
    | 1, cs =>
      let (shown, rest) := plainText 0 cs
      ('{' :: '{' :: shown, rest)
    | n + 2, _ => (List.replicate (n + 1) '\\', '{' :: '{' :: cs)
  | c :: cs =>
    let (shown, rest) := plainText 0 cs
    (List.replicate slashes '\\' ++ c :: shown, rest)

/-- The piece of a text, unless it is empty. -/
def textPiece (shown : List Char) : List Piece :=
  if shown.isEmpty then [] else [.text (String.ofList shown)]

/-! ## Tags -/

/-- Reads a fixed text, and gives what follows it. -/
def mark? (mark cs : List Char) : Option (List Char) := mark.isPrefixOf? cs

/-- Reads a fixed text and the blanks in front of it. -/
def close? (mark cs : List Char) : Option (List Char) := mark? mark (skipBlanks cs)

/-- Reads what stands in a tag.  A name with arguments is a call. -/
def content? (cs : List Char) : Option (Piece × List Char) :=
  match helperName? cs with
  | some (helper, rest) =>
    match many callPart? rest with
    | ([], _) => (reference? cs).map (fun (target, rest) => (.field target, rest))
    | (parts, rest) => some (.call helper (positionals parts) (nameds parts), rest)
  | none => (reference? cs).map (fun (target, rest) => (.field target, rest))

/-- Reads a tag between two marks. -/
def enclosed? (first last cs : List Char) : Option (Piece × List Char) := do
  let rest ← mark? first cs
  let (piece, rest) ← content? (skipBlanks rest)
  let rest ← close? last rest
  return (piece, rest)

/-- Whether a tag starts the other branch of a block, which stands nowhere by
itself. -/
def isBranch (cs : List Char) : Bool :=
  match (mark? ['{', '{'] cs).bind (close? ['e', 'l', 's', 'e']) with
  | none => false
  | some rest =>
    (close? ['}', '}'] rest).isSome ||
      match helperName? (skipBlanks rest) with
      | none => false
      | some (_, rest) => (close? ['}', '}'] (many callPart? rest).2).isSome

/-- Reads a tag with a third pair of braces that stand apart. -/
def spaced? (cs : List Char) : Option (Piece × List Char) := do
  let rest ← mark? ['{', '{'] cs
  let (piece, rest) ← enclosed? ['{'] ['}'] (skipBlanks rest)
  let rest ← close? ['}', '}'] rest
  return (piece, rest)

/-- Reads a tag. -/
def tag? (cs : List Char) : Option (Piece × List Char) :=
  ((if isBranch cs then none else enclosed? ['{', '{'] ['}', '}'] cs).or
    (enclosed? ['{', '{', '{'] ['}', '}', '}'] cs)).or (spaced? cs)

/-! ## Templates -/

/-- Reads the pieces of a template. -/
def pieces? (cs : List Char) : Option (List Piece) :=
  let (shown, rest) := plainText 0 cs
  if rest.isEmpty then some (textPiece shown)
  else
    match tag? rest with
    | none => none
    | some (piece, after) =>
      if after.length < cs.length then
        (pieces? after).map (fun pieces => textPiece shown ++ piece :: pieces)
      else none
termination_by cs.length

/-- Reads a template. -/
def read? (text : String) : Option Template := (pieces? text.toList).map Template.mk

/-- Reads a template and fills it. -/
def renderText (text : String) (data : Json) : Except TemplateError String :=
  match read? text with
  | some t => t.render data
  | none => .error .malformed

end Template

/-! ## Libraries -/

/-- Templates by name. -/
abbrev TemplateLibrary := OrderedMap String Template

namespace TemplateLibrary

/-- Adds a template under a name. -/
def register (library : TemplateLibrary) (name text : String) :
    Except TemplateError TemplateLibrary :=
  match Template.read? text with
  | some t => .ok (library.insert name t)
  | none => .error .malformed

/-- Fills the template with a name. -/
def render (library : TemplateLibrary) (name : String) (data : Json) :
    Except TemplateError String :=
  match library.get? name with
  | some t => t.render data
  | none => .error (.unknownTemplate name)

end TemplateLibrary

end DesignTokens
