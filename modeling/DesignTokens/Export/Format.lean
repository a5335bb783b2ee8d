import DesignTokens.Json.Record

/-!
# Formats of exports

Key definition: `ExportFormat`.
-/

namespace DesignTokens

/-- The formats in which a token set is exported. -/
inductive ExportFormat where
  | css
  | scss
  | json
  | typescript
deriving Repr, DecidableEq

namespace ExportFormat

instance : Alternatives ExportFormat where
  all := [.css, .scss, .json, .typescript]
  name
    | .css => "css"
    | .scss => "scss"
    | .json => "json"
    | .typescript => "ts"
  synonyms := [("typescript", .typescript)]

/-- The extension of exported files, which is also the name of the format. -/
def extension (f : ExportFormat) : String := Alternatives.name f

/-- The name of an exported file. -/
def fileName (f : ExportFormat) : String := "design-tokens." ++ f.extension

/-- The media type of an exported file. -/
def contentType : ExportFormat → String
  | .css => "text/css"
  | .scss => "text/x-scss"
  | .json => "application/json"
  | .typescript => "application/typescript"

end ExportFormat

end DesignTokens
