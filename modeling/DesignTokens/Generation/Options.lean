import DesignTokens.Json.Record

/-!
# Options of a generation

Key definitions: `Framework`, `StyleFormat`, `GenerationOptions`.
-/

namespace DesignTokens

/-- The frameworks that components are generated for. -/
inductive Framework where
  | react
  | vue
  | angular
deriving Repr, DecidableEq

instance : Alternatives Framework where
  all := [.react, .vue, .angular]
  name
    | .react => "react"
    | .vue => "vue"
    | .angular => "angular"

/-- The syntaxes of stylesheets. -/
inductive StyleFormat where
  | css
  | scss
  | tailwind
deriving Repr, DecidableEq

instance : Alternatives StyleFormat where
  all := [.css, .scss, .tailwind]
  name
    | .css => "css"
    | .scss => "scss"
    | .tailwind => "tailwind"

/-- The extension of the stylesheets of components.  Those for Tailwind are
plain stylesheets. -/
def StyleFormat.extension : StyleFormat → String
  | .scss => "scss"
  | .css | .tailwind => "css"

/-- What is generated. -/
structure GenerationOptions where
  framework : Framework
  styleFormat : StyleFormat
  /-- Whether sources are typed. -/
  typescript : Bool
  /-- Whether files are tidied. -/
  formatOutput : Bool
deriving Repr, DecidableEq

namespace GenerationOptions

/-- What is generated unless something else is asked for. -/
def standard : GenerationOptions := ⟨.react, .css, true, true⟩

/-- The fields of options. -/
def knownFields : List Json.Field :=
  [Json.field "framework", ⟨"styleFormat", ["style_format"]⟩,
    ⟨"typescript", ["typescriptOutput"]⟩, ⟨"formatOutput", ["prettier"]⟩]

instance : ToJson GenerationOptions where
  toJson o := .obj
    [("framework", toJson o.framework), ("styleFormat", toJson o.styleFormat),
      ("typescript", toJson o.typescript), ("formatOutput", toJson o.formatOutput)]

instance : OfJson GenerationOptions where
  ofJson? j := do
    let fields ← j.record? knownFields
    let framework ← Json.orElse? fields "framework" standard.framework
    let styleFormat ← Json.orElse? fields "styleFormat" standard.styleFormat
    let typescript ← Json.orElse? fields "typescript" standard.typescript
    let formatOutput ← Json.orElse? fields "formatOutput" standard.formatOutput
    return { framework, styleFormat, typescript, formatOutput }

end GenerationOptions

end DesignTokens
