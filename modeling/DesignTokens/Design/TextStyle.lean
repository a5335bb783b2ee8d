import DesignTokens.Css.Number
import DesignTokens.Json.Record

/-!
# Text styles

The style block of a text node.  A document may leave out every part of it.

Key definitions: `LineHeight`, `TextDecoration`, `TextCase`, `TextStyle`.
-/

namespace DesignTokens

/-! ## Line heights -/

/-- The units of a measured line height. -/
inductive LineHeightUnit where
  | pixels
  | percent
deriving Repr, DecidableEq

instance : Alternatives LineHeightUnit where
  all := [.pixels, .percent]
  name
    | .pixels => "PIXELS"
    | .percent => "PERCENT"

/-- A line height is a multiple of the font size or a measured value. -/
inductive LineHeight where
  | multiple (x : Float)
  | measured (x : Float) (unit : LineHeightUnit)
deriving Repr, BEq

namespace LineHeight

/-- The line height of a text that declares none. -/
def standard : LineHeight := .multiple 1.2

/-- The number in a line height, whatever its unit. -/
def value : LineHeight → Float
  | .multiple x => x
  | .measured x _ => x

/-- The line height as a stylesheet value. -/
def css : LineHeight → String
  | .multiple x => Css.plain x
  | .measured x .pixels => Css.plain x ++ "px"
  | .measured x .percent => Css.plain x ++ "%"

instance : ToJson LineHeight where
  toJson
    | .multiple x => toJson x
    | .measured x unit => .obj [("value", toJson x), ("unit", toJson unit)]

/-- A number or an object with a value and a unit.  The whole document is read
before it is told which of the two it is, so that no part may be unreadable. -/
instance : OfJson LineHeight where
  ofJson? j :=
    if !j.isReadable then none
    else
      match j with
      | .num n => some (.multiple n.toFloat)
      | .obj given => do
        let fields ← (Json.obj given).record? [Json.field "value", Json.field "unit"]
        let x ← Json.required? fields "value"
        let unit ← Json.required? fields "unit"
        return .measured x unit
      | _ => none

end LineHeight

/-! ## Decoration and case -/

/-- The line that goes with a text. -/
inductive TextDecoration where
  | none
  | underline
  | strikethrough
  | other
deriving Repr, DecidableEq

instance : Alternatives TextDecoration where
  all := [.none, .underline, .strikethrough, .other]
  name
    | .none => "NONE"
    | .underline => "UNDERLINE"
    | .strikethrough => "STRIKETHROUGH"
    | .other => "OTHER"
  unknown := some .other

/-- The decoration as a stylesheet value. -/
def TextDecoration.css : TextDecoration → String
  | .none | .other => "none"
  | .underline => "underline"
  | .strikethrough => "line-through"

/-- The letter case in which a text is shown. -/
inductive TextCase where
  | asWritten
  | upper
  | lower
  | title
  | other
deriving Repr, DecidableEq

instance : Alternatives TextCase where
  all := [.asWritten, .upper, .lower, .title, .other]
  name
    | .asWritten => "ORIGINAL"
    | .upper => "UPPER"
    | .lower => "LOWER"
    | .title => "TITLE"
    | .other => "OTHER"
  unknown := some .other

/-- The case as a stylesheet value. -/
def TextCase.css : TextCase → String
  | .asWritten | .other => "none"
  | .upper => "uppercase"
  | .lower => "lowercase"
  | .title => "capitalize"

/-! ## Styles -/

/-- The style of a text node as far as its document declares it. -/
structure TextStyle where
  fontFamily : Option String
  fontWeight : Option Float
  fontSize : Option Float
  letterSpacing : Option Float
  lineHeight : Option LineHeight
  textDecoration : Option TextDecoration
  textCase : Option TextCase
deriving Repr, BEq

namespace TextStyle

/-- The fields of a text style. -/
def knownFields : List Json.Field :=
  [Json.field "fontFamily", Json.field "fontWeight", Json.field "fontSize",
    Json.field "letterSpacing", Json.field "lineHeight", Json.field "textDecoration",
    Json.field "textCase"]

instance : ToJson TextStyle where
  toJson s := .obj <|
    Json.optionalField "fontFamily" s.fontFamily ++ Json.optionalField "fontWeight" s.fontWeight
      ++ Json.optionalField "fontSize" s.fontSize
      ++ Json.optionalField "letterSpacing" s.letterSpacing
      ++ Json.optionalField "lineHeight" s.lineHeight
      ++ Json.optionalField "textDecoration" s.textDecoration
      ++ Json.optionalField "textCase" s.textCase

instance : OfJson TextStyle where
  ofJson? j := do
    let fields ← j.record? knownFields
    let fontFamily ← Json.optional? fields "fontFamily"
    let fontWeight ← Json.optional? fields "fontWeight"
    let fontSize ← Json.optional? fields "fontSize"
    let letterSpacing ← Json.optional? fields "letterSpacing"
    let lineHeight ← Json.optional? fields "lineHeight"
    let textDecoration ← Json.optional? fields "textDecoration"
    let textCase ← Json.optional? fields "textCase"
    return { fontFamily, fontWeight, fontSize, letterSpacing, lineHeight, textDecoration, textCase }

end TextStyle

end DesignTokens
