import DesignTokens.OrderedMap
import DesignTokens.Token.Basic

/-!
# Sheets

A sheet is a stylesheet before it is written in one of the syntaxes: custom
properties with their values, and utility classes that refer to them.  It is
made of the colors and text styles of a design.

Key definitions:

* `Utility` is a utility class.
* `Sheet` is the type of sheets.
* `Sheet.ofTokens` collects the sheet of a list of tokens.
-/

namespace DesignTokens

/-! ## Utility classes -/

/-- The families of utility classes. -/
inductive UtilityFamily where
  | text
  | background
  | font
deriving Repr, DecidableEq

/-- The first part of the class names of a family. -/
def UtilityFamily.name : UtilityFamily → String
  | .text => "text"
  | .background => "bg"
  | .font => "font"

/-- The value of a declaration: a custom property or a text. -/
inductive StyleValue where
  | property (name : String)
  | literal (text : String)
deriving Repr, DecidableEq

/-- A declaration in a rule. -/
structure Declaration where
  property : String
  value : StyleValue
deriving Repr, DecidableEq

/-- A utility class. -/
structure Utility where
  family : UtilityFamily
  name : String
  declarations : List Declaration
deriving Repr, DecidableEq

/-- The selector of a utility class. -/
def Utility.selector (u : Utility) : String := "." ++ u.family.name ++ "-" ++ u.name

/-! ## Sheets -/

/-- Custom properties by name and utility classes by selector. -/
structure Sheet where
  properties : OrderedMap String String
  utilities : OrderedMap String Utility

namespace Sheet

/-- The sheet without entries. -/
def empty : Sheet := ⟨.empty, .empty⟩

/-- What the names of color properties start with. -/
def colorStart : String := "color-"

/-- What the names of font size properties start with. -/
def fontSizeStart : String := "font-size-"

/-- What the names of line height properties start with. -/
def lineHeightStart : String := "line-height-"

/-- Gives a custom property a value. -/
def define (s : Sheet) (name value : String) : Sheet :=
  { s with properties := s.properties.insert name value }

/-- Adds a utility class under its selector.  An earlier one gives way. -/
def addUtility (s : Sheet) (u : Utility) : Sheet :=
  { s with utilities := s.utilities.insert u.selector u }

/-- Adds a color: a property and the classes that use it for texts and for
backgrounds. -/
def addColor (s : Sheet) (slug : String) (color : Color) : Sheet :=
  let name := colorStart ++ slug
  let s := s.define name color.exactCss
  let s := s.addUtility ⟨.text, slug, [⟨"color", .property name⟩]⟩
  s.addUtility ⟨.background, slug, [⟨"background-color", .property name⟩]⟩

/-- Adds a text style: the properties of its size and its line height and the
class that uses them. -/
def addTypography (s : Sheet) (slug : String) (t : Typography) : Sheet :=
  let size := fontSizeStart ++ slug
  let height := lineHeightStart ++ slug
  let s := (s.define size (Css.pixels t.fontSize)).define height t.lineHeight.css
  s.addUtility
    ⟨.font, slug,
      [⟨"font-size", .property size⟩, ⟨"line-height", .property height⟩,
        ⟨"font-weight", .literal (Css.number t.fontWeight)⟩]⟩

/-- Adds a token.  Only colors and text styles have a place in a sheet. -/
def add (s : Sheet) (t : Token) : Sheet :=
  match t.payload with
  | .color use => s.addColor t.slug use.color
  | .typography text => s.addTypography t.slug text
  | _ => s

/-- The sheet of a list of tokens. -/
def ofTokens (ts : List Token) : Sheet := ts.foldl add empty

end Sheet

end DesignTokens
