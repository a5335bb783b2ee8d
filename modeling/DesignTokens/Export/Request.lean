import DesignTokens.Export.Format
import DesignTokens.Export.Literal
import DesignTokens.Export.Variables
import DesignTokens.Json.Writer

/-!
# Exports

Key definitions: `TokenSet.exported`, `ExportRequest`.
-/

namespace DesignTokens

/-- A token set in a format. -/
def TokenSet.exported (s : TokenSet) : ExportFormat → String
  | .css => s.css
  | .scss => s.scss
  | .json => (toJson s).pretty
  | .typescript => s.typescript

/-- A request for an exported file. -/
structure ExportRequest where
  tokens : TokenSet
  format : ExportFormat
deriving BEq

/-- An exported file. -/
structure ExportedFile where
  fileName : String
  contentType : String
  content : String
deriving Repr, DecidableEq

instance : ToJson ExportedFile where
  toJson f := .obj
    [("fileName", toJson f.fileName), ("contentType", toJson f.contentType),
      ("content", toJson f.content)]

instance : OfJson ExportedFile where
  ofJson? j := do
    let fields ← j.record?
      [Json.field "fileName", Json.field "contentType", Json.field "content"]
    let fileName ← Json.required? fields "fileName"
    let contentType ← Json.required? fields "contentType"
    let content ← Json.required? fields "content"
    return { fileName, contentType, content }

namespace ExportRequest

/-- The fields of a request. -/
def knownFields : List Json.Field := [⟨"tokenSet", ["tokens"]⟩, Json.field "format"]

instance : ToJson ExportRequest where
  toJson r := .obj [("tokenSet", toJson r.tokens), ("format", toJson r.format)]

instance : OfJson ExportRequest where
  ofJson? j := do
    let fields ← j.record? knownFields
    let tokens ← Json.required? fields "tokenSet"
    let format ← Json.required? fields "format"
    return { tokens, format }

/-- The file that a request asks for. -/
def handle (r : ExportRequest) : ExportedFile :=
  ⟨r.format.fileName, r.format.contentType, r.tokens.exported r.format⟩

end ExportRequest

end DesignTokens
