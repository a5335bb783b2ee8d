import DesignTokens.OrderedMap
import DesignTokens.Token.Basic

/-!
# Token sets

A token set sorts the style tokens of a document into four maps from slugs to
stylesheet values.

Key definitions:

* `TypographyEntry` is a text style in a token set.
* `Shade.shorthand?` is a shadow as one stylesheet value.
* `TokenSet` is the type of token sets, and `TokenSet.ofTokens` collects one.
-/

namespace DesignTokens

/-! ## Values -/

/-- A text style as stylesheets want it. -/
structure TypographyEntry where
  fontFamily : String
  fontSize : String
  fontWeight : UInt16
  lineHeight : Float
  letterSpacing : String
deriving Repr, BEq, DecidableEq

namespace TypographyEntry

/-- The entry of a text style.  The line height loses its unit. -/
def ofTypography (t : Typography) : TypographyEntry where
  fontFamily := t.fontFamily
  fontSize := Css.pixels t.fontSize
  fontWeight := UInt16.ofNat (Decimal.roundedWithin (UInt16.size - 1) t.fontWeight)
  lineHeight := t.lineHeight.value
  letterSpacing := Css.pixels t.letterSpacing

/-- The fields of an entry. -/
def knownFields : List Json.Field :=
  [Json.field "fontFamily", Json.field "fontSize", Json.field "fontWeight",
    Json.field "lineHeight", Json.field "letterSpacing"]

instance : ToJson TypographyEntry where
  toJson e := .obj
    [("fontFamily", toJson e.fontFamily), ("fontSize", toJson e.fontSize),
      ("fontWeight", toJson e.fontWeight), ("lineHeight", toJson e.lineHeight),
      ("letterSpacing", toJson e.letterSpacing)]

instance : OfJson TypographyEntry where
  ofJson? j := do
    let fields ← j.record? knownFields
    let fontFamily ← Json.required? fields "fontFamily"
    let fontSize ← Json.required? fields "fontSize"
    let fontWeight ← Json.required? fields "fontWeight"
    let lineHeight ← Json.required? fields "lineHeight"
    let letterSpacing ← Json.required? fields "letterSpacing"
    return { fontFamily, fontSize, fontWeight, lineHeight, letterSpacing }

end TypographyEntry

/-- What an inner shadow starts with in stylesheets. -/
def Shade.inset (kind : EffectKind) : String :=
  match kind with
  | .innerShadow => "inset "
  | _ => ""

/-- The color of a shadow that declares none. -/
def Shade.standardColor : String := "rgba(0, 0, 0, 0.1)"

/-- A shadow as one stylesheet value with a rounded color.  A blur has none. -/
def Shade.shorthand? (s : Shade) : Option String :=
  if s.kind.isShadow then
    let offset := s.offset.getD .zero
    let color := (s.color.map Color.roundedCss).getD Shade.standardColor
    some (Shade.inset s.kind ++ Css.pixels offset.x ++ " " ++ Css.pixels offset.y ++ " "
      ++ Css.pixels s.radius ++ " " ++ Css.pixels (s.spread.getD 0.0) ++ " " ++ color)
  else none

/-! ## Maps in documents -/

/-- A map is an object in the order of its entries. -/
instance {α : Type} [ToJson α] : ToJson (OrderedMap String α) where
  toJson m := .obj (m.entries.map (fun entry => (entry.1, toJson entry.2)))

/-- Reads the entries of an object. -/
def Json.entries? {α : Type} [OfJson α] : List (String × Json) → Option (List (String × α))
  | [] => some []
  | (key, j) :: fields => do
    let x ← ofJson? j
    let entries ← entries? fields
    return (key, x) :: entries

/-- A key that is there twice keeps its first place and its last value. -/
instance {α : Type} [OfJson α] : OfJson (OrderedMap String α) where
  ofJson?
    | .obj fields => (Json.entries? fields).map OrderedMap.ofList
    | _ => none

/-! ## Token sets -/

/-- The style tokens of a document by kind and slug. -/
structure TokenSet where
  colors : OrderedMap String String
  typography : OrderedMap String TypographyEntry
  spacing : OrderedMap String String
  shadows : OrderedMap String String
deriving BEq, DecidableEq

namespace TokenSet

/-- The token set without entries. -/
def empty : TokenSet := ⟨.empty, .empty, .empty, .empty⟩

/-- The number of entries. -/
def size (s : TokenSet) : Nat :=
  s.colors.size + s.typography.size + s.spacing.size + s.shadows.size

/-- Whether there are no entries. -/
def isEmpty (s : TokenSet) : Bool := s.size == 0

/-- Adds the spacing of a layout: the distance of its items and the padding
around them. -/
def addLayout (spacing : OrderedMap String String) (slug : String) (layout : Layout) :
    OrderedMap String String :=
  let spacing := match layout.itemSpacing with
    | some x => spacing.insert slug (Css.pixels x)
    | none => spacing
  match layout.padding with
  | some p => spacing.insert (slug ++ "-padding") p.css
  | none => spacing

/-- Adds a token.  It takes the place of an earlier one with its slug; only
shadows are stacked. -/
def add (s : TokenSet) (t : Token) : TokenSet :=
  match t.payload with
  | .color use => { s with colors := s.colors.insert t.slug use.color.roundedCss }
  | .typography text =>
    { s with typography := s.typography.insert t.slug (.ofTypography text) }
  | .spacing layout => { s with spacing := addLayout s.spacing t.slug layout }
  | .shadow shade =>
    match shade.shorthand? with
    | some shadow =>
      { s with
        shadows := s.shadows.alter t.slug (fun earlier =>
          match earlier with
          | some shadows => shadows ++ ", " ++ shadow
          | none => shadow) }
    | none => s
  | .component _ => s

/-- The token set of a list of tokens. -/
def ofTokens (ts : List Token) : TokenSet := ts.foldl add empty

/-! ## JSON form -/

instance : ToJson TokenSet where
  toJson s := .obj
    [("colors", toJson s.colors), ("typography", toJson s.typography),
      ("spacing", toJson s.spacing), ("shadows", toJson s.shadows)]

/-- The fields of a token set. -/
def knownFields : List Json.Field :=
  [Json.field "colors", Json.field "typography", Json.field "spacing", Json.field "shadows"]

/-- Maps that are left out are empty. -/
instance : OfJson TokenSet where
  ofJson? j := do
    let fields ← j.record? knownFields
    let colors ← Json.orElse? fields "colors" OrderedMap.empty
    let typography ← Json.orElse? fields "typography" OrderedMap.empty
    let spacing ← Json.orElse? fields "spacing" OrderedMap.empty
    let shadows ← Json.orElse? fields "shadows" OrderedMap.empty
    return { colors, typography, spacing, shadows }

end TokenSet

end DesignTokens
