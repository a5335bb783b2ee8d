import DesignTokens.Design.Effect

/-!
# Options of an extraction

Key definition: `ExtractionOptions`.
-/

namespace DesignTokens

/-- What an extraction records beyond colors, texts, shadows, layouts and
components. -/
structure ExtractionOptions where
  /-- Whether blurs become tokens. -/
  includeBlur : Bool
  /-- Whether tokens know how often their names occur. -/
  usageMetadata : Bool
deriving Repr, DecidableEq

namespace ExtractionOptions

/-- Neither blurs nor usage. -/
def shallow : ExtractionOptions := ⟨false, false⟩

/-- Both blurs and usage. -/
def deep : ExtractionOptions := ⟨true, true⟩

/-- Whether effects of a kind become tokens. -/
def records (o : ExtractionOptions) (kind : EffectKind) : Bool :=
  kind.isShadow || (o.includeBlur && kind.isBlur)

instance : ToJson ExtractionOptions where
  toJson o := .obj
    [("includeBlur", toJson o.includeBlur), ("usageMetadata", toJson o.usageMetadata)]

instance : OfJson ExtractionOptions where
  ofJson? j := do
    let fields ← j.record? [Json.field "includeBlur", Json.field "usageMetadata"]
    let includeBlur ← Json.orElse? fields "includeBlur" false
    let usageMetadata ← Json.orElse? fields "usageMetadata" false
    return { includeBlur, usageMetadata }

end ExtractionOptions

end DesignTokens
