import DesignTokens.Token.Payload
import DesignTokens.Naming.Slug

/-!
# Tokens

A token joins a payload with the place in the document where it was seen.

Key definitions:

* `Usage` counts how often the name of a token occurs.
* `Token` is the type of tokens.
* `Token.slug` is the name of a token in stylesheets.
-/

namespace DesignTokens

/-! ## Usage -/

/-- How often the name of a token occurs in its document. -/
structure Usage where
  isComponent : Bool
  isReused : Bool
  frequency : UInt32
deriving Repr, DecidableEq

instance : ToJson Usage where
  toJson u := .obj
    [("isComponent", toJson u.isComponent), ("isReused", toJson u.isReused),
      ("frequency", toJson u.frequency)]

instance : OfJson Usage where
  ofJson? j := do
    let fields ← j.record?
      [Json.field "isComponent", Json.field "isReused", Json.field "frequency"]
    let isComponent ← Json.required? fields "isComponent"
    let isReused ← Json.required? fields "isReused"
    let frequency ← Json.required? fields "frequency"
    return { isComponent, isReused, frequency }

/-! ## Tokens -/

/-- A fact about a design.  Its path has the names of the nodes that lead to it
from just below the root of the document. -/
structure Token where
  id : String
  name : String
  path : List String
  payload : Payload
  usage : Option Usage
deriving Repr, BEq

namespace Token

/-- The token of a color outside any document. -/
def ofColor (name : String) (color : Color) : Token where
  id := "color:" ++ name
  name := name
  path := []
  payload := .color ⟨color, .fill, 0⟩
  usage := none

/-- The token of a component outside any document. -/
def ofComponent (c : Component) : Token where
  id := "component:" ++ c.name
  name := c.name
  path := []
  payload := .component c
  usage := none

/-- The kind of a token. -/
def kind (t : Token) : TokenKind := t.payload.kind

/-- What tells the colors of one node apart: nothing for its first fill, and
otherwise the role and the number of the paint. -/
def colorQualifier (use : ColorUse) : String :=
  (match use.role with
    | .fill => ""
    | .stroke => "-stroke")
  ++ (if use.index = 0 then "" else "-" ++ Decimal.wholeText (use.index.toNat + 1))

/-- The name of a token in stylesheets.  The colors of a node `Card` are `card`,
`card-2`, `card-stroke` and so on. -/
def slug (t : Token) : String :=
  match t.payload with
  | .color use => Naming.kebab t.name ++ colorQualifier use
  | _ => Naming.kebab t.name

/-- The color of a color token. -/
def color? (t : Token) : Option ColorUse :=
  match t.payload with
  | .color use => some use
  | _ => none

/-- The text style of a typography token. -/
def typography? (t : Token) : Option Typography :=
  match t.payload with
  | .typography text => some text
  | _ => none

/-- The layout of a spacing token. -/
def layout? (t : Token) : Option Layout :=
  match t.payload with
  | .spacing layout => some layout
  | _ => none

/-- The effect of a shadow token. -/
def shade? (t : Token) : Option Shade :=
  match t.payload with
  | .shadow shade => some shade
  | _ => none

/-- The component of a component token. -/
def component? (t : Token) : Option Component :=
  match t.payload with
  | .component value => some value
  | _ => none

/-! ## JSON form -/

/-- The fields of a token. -/
def knownFields : List Json.Field :=
  [Json.field "id", Json.field "name", Json.field "type", Json.field "path",
    Json.field "value", Json.field "metadata"]

instance : ToJson Token where
  toJson t := .obj <|
    [("id", toJson t.id), ("name", toJson t.name), ("type", toJson t.kind),
      ("path", toJson t.path), ("value", toJson t.payload)]
      ++ Json.optionalField "metadata" t.usage

/-- The payload is read as a value before it is read as what the type of the
token says. -/
instance : OfJson Token where
  ofJson? j := do
    let fields ← j.record? knownFields
    let id ← Json.required? fields "id"
    let name ← Json.required? fields "name"
    let kind ← Json.required? fields "type"
    let path ← Json.orElse? fields "path" []
    let value : Json ← Json.required? fields "value"
    let usage ← Json.optional? fields "metadata"
    let payload ← Payload.ofJson? kind value
    return { id, name, path, payload, usage }

end Token

end DesignTokens
