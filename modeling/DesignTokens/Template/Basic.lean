import DesignTokens.Json.Writer
import DesignTokens.Naming.Identifier
import DesignTokens.OrderedMap

/-!
# Templates

A template is text with places in it that are filled from a document.  Nothing
is escaped, and a place that cannot be filled is an error.

Key definitions:

* `Template` is a list of pieces.
* `TemplateError` lists what may go wrong.
* `Template.render` fills the places of a template.
-/

namespace DesignTokens

/-! ## Pieces -/

/-- The functions that a template may call. -/
inductive Helper where
  | pascalCase
  | camelCase
  | kebabCase
deriving Repr, DecidableEq

/-- The function with a name. -/
def Helper.ofName? : String → Option Helper
  | "pascal_case" => some .pascalCase
  | "camel_case" => some .camelCase
  | "kebab_case" => some .kebabCase
  | _ => none

/-- What a function makes of a name. -/
def Helper.apply : Helper → String → String
  | .pascalCase => Naming.pascal
  | .camelCase => Naming.camel
  | .kebabCase => Naming.kebab

/-- What a tag refers to: the text as it is written, whether it is a variable,
and the names that lead through the document. -/
structure Reference where
  written : String
  isVariable : Bool
  names : List String
deriving Repr, DecidableEq

/-- The reference to a field of the document. -/
def Reference.ofField (name : String) : Reference := ⟨name, false, [name]⟩

/-- An argument of a call: what a reference leads to, or a value written out. -/
inductive Argument where
  | path (target : Reference)
  | literal (value : Json)
deriving Repr

/-- A piece of a template: text, a place that a reference fills, or a call with
its arguments in order and by name. -/
inductive Piece where
  | text (shown : String)
  | field (target : Reference)
  | call (helper : String) (arguments : List Argument) (named : List (String × Argument))
deriving Repr

/-- A template. -/
structure Template where
  pieces : List Piece
deriving Repr

/-! ## Errors -/

/-- Why a template cannot be used. -/
inductive TemplateError where
  | malformed
  | unknownTemplate (name : String)
  | missingField (written : String)
  | notAnIndex (name : String)
  | unknownHelper (name : String)
  | missingArgument (helper : String)
  | notAString (helper : String)
deriving Repr, DecidableEq

/-- The description of an error. -/
def TemplateError.message : TemplateError → String
  | .malformed => "malformed template"
  | .unknownTemplate name => "unknown template: " ++ name
  | .missingField written => "missing field: " ++ written
  | .notAnIndex name => "not an index: " ++ name
  | .unknownHelper name => "unknown helper: " ++ name
  | .missingArgument helper => "missing argument: " ++ helper
  | .notAString helper => "argument is not a string: " ++ helper

/-! ## Following references -/

/-- The numbers of items lie below this. -/
def itemLimit : Nat := 18446744073709551616

/-- The number of an item in an array.  A plus sign may stand in front. -/
def itemIndex? (name : String) : Option Nat :=
  let digits := match name.toList with
    | '+' :: cs => cs
    | cs => cs
  if digits.isEmpty || !digits.all Char.isDigit then none
  else
    let n := Decimal.digitsValue digits
    if n < itemLimit then some n else none

/-- The part of a document that one step leads to, if there is one.  The items
of an array are counted from zero, and no other name fits an array. -/
def Json.step (name : String) : Json → Except TemplateError (Option Json)
  | .obj fields => .ok (Json.get? fields name)
  | .arr items =>
    match itemIndex? name with
    | some i => .ok items[i]?
    | none => .error (.notAnIndex name)
  | _ => .ok none

/-- The part of a document that names lead to, if there is one. -/
def Json.follow (j : Json) : List String → Except TemplateError (Option Json)
  | [] => .ok (some j)
  | name :: names =>
    match j.step name with
    | .error e => .error e
    | .ok none => .ok none
    | .ok (some inner) => inner.follow names

/-- What a reference leads to, if there is anything.  No variable has a value. -/
def Reference.find (data : Json) (r : Reference) : Except TemplateError (Option Json) :=
  if r.isVariable then .ok none else data.follow r.names

/-! ## Rendering -/

mutual

/-- The text of a value in a template.  Strings stand without quotes, and `null`
is empty. -/
def Json.shown : Json → String
  | .null => ""
  | .bool b => if b then "true" else "false"
  | .num n => n.text
  | .str s => s
  | .arr items => "[" ++ ", ".intercalate (Json.shownItems items) ++ "]"
  | .obj _ => "[object]"
  | .unreadable => ""

/-- The texts of the items of an array. -/
def Json.shownItems : List Json → List String
  | [] => []
  | j :: js => j.shown :: Json.shownItems js

end

/-- The value of an argument, if there is one. -/
def Argument.find (data : Json) : Argument → Except TemplateError (Option Json)
  | .literal value => .ok (some value)
  | .path target => target.find data

/-- Names that stand for functions on conditions and lists, which have no text of
their own.  A field with such a name is out of reach. -/
def reservedNames : List String :=
  ["if", "unless", "each", "with", "lookup", "eq", "ne", "gt", "gte", "lt", "lte", "and", "or",
    "not", "len"]

/-- Names that stand for functions that print nothing. -/
def silentNames : List String := ["log", "raw"]

/-- The text of a call with the values of its arguments.  The first one counts. -/
def renderCall (name : String) (values : List (Option Json)) : Except TemplateError String :=
  match Helper.ofName? name with
  | some helper =>
    match values with
    | some (.str s) :: _ => .ok (helper.apply s)
    | some _ :: _ => .error (.notAString name)
    | _ => .error (.missingArgument name)
  | none => if silentNames.contains name then .ok "" else .error (.unknownHelper name)

/-- Whether a name in a tag stands for a function. -/
def isHelperName (name : String) : Bool :=
  (Helper.ofName? name).isSome || reservedNames.contains name || silentNames.contains name

/-- The text of a piece. -/
def Piece.render (data : Json) : Piece → Except TemplateError String
  | .text shown => .ok shown
  | .field target =>
    if isHelperName target.written then renderCall target.written []
    else
      match target.find data with
      | .error e => .error e
      | .ok (some value) => .ok value.shown
      | .ok none => .error (.missingField target.written)
  | .call name arguments named => do
    let values ← arguments.mapM (Argument.find data)
    let _ ← named.mapM (fun argument => argument.2.find data)
    renderCall name values

/-- The texts of pieces in a row. -/
def renderPieces (data : Json) : List Piece → Except TemplateError String
  | [] => .ok ""
  | p :: ps => do
    let text ← p.render data
    let rest ← renderPieces data ps
    return text ++ rest

/-- The text of a template filled from a document. -/
def Template.render (t : Template) (data : Json) : Except TemplateError String :=
  renderPieces data t.pieces

end DesignTokens
