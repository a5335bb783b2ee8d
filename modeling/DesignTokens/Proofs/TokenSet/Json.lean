import DesignTokens.History.Version
import DesignTokens.Proofs.Json.Record

/-!
# Token sets in documents

What is written for a token set is read as the token set, in the same order, as
long as its line heights come through, and only then.  The same goes for
versions.
-/

namespace DesignTokens

open Json

/-! ## Token sets -/

theorem fits_typographyEntry (e : TypographyEntry) : Fits 1 e where
  sound :=
    ⟨trivial, trivial, (fits_uint16 e.fontWeight).sound, isSound_float e.lineHeight, trivial,
      trivial⟩
  shallow := by
    have height := (fits_float e.lineHeight).shallow
    show max 0 (max 0 (max 0 (max (toJson e.lineHeight).depth (max 0 0)))) + 1 ≤ 1
    omega

/-- Of the properties of a text only the line height may be lost. -/
theorem comesBack_typographyEntry_iff {e : TypographyEntry} :
    ComesBack e ↔ (Number.real e.lineHeight).IsLossless := by
  have record : (toJson e).reread.record? TypographyEntry.knownFields = some
      [("fontFamily", (toJson e.fontFamily).reread), ("fontSize", (toJson e.fontSize).reread),
        ("fontWeight", (toJson e.fontWeight).reread), ("lineHeight", (toJson e.lineHeight).reread),
        ("letterSpacing", (toJson e.letterSpacing).reread)] :=
    record?_own rfl (by decide) (by decide)
  rw [← comesBack_float_iff, ComesBack]
  show ((toJson e).reread.record? TypographyEntry.knownFields).bind _ = some e ↔ _
  rw [record, Option.bind_some]
  constructor
  · intro back
    obtain ⟨_, _, back⟩ := Option.bind_eq_some_iff.mp back
    obtain ⟨_, _, back⟩ := Option.bind_eq_some_iff.mp back
    obtain ⟨_, _, back⟩ := Option.bind_eq_some_iff.mp back
    obtain ⟨height, found, back⟩ := Option.bind_eq_some_iff.mp back
    obtain ⟨_, _, back⟩ := Option.bind_eq_some_iff.mp back
    cases back
    exact found
  · intro height
    exact Option.bind_eq_some_iff.mpr ⟨e.fontFamily, rfl,
      Option.bind_eq_some_iff.mpr ⟨e.fontSize, rfl,
      Option.bind_eq_some_iff.mpr ⟨e.fontWeight, comesBack_uint16 e.fontWeight,
      Option.bind_eq_some_iff.mpr ⟨e.lineHeight, height,
      Option.bind_eq_some_iff.mpr ⟨e.letterSpacing, rfl, rfl⟩⟩⟩⟩⟩

namespace TokenSet

/-- Whether all line heights are finite. -/
def IsFinite (s : TokenSet) : Prop :=
  ∀ e ∈ s.typography.values, Decimal.isFinite e.lineHeight = true

/-- Whether all line heights come through. -/
def IsLossless (s : TokenSet) : Prop :=
  ∀ e ∈ s.typography.values, (Number.real e.lineHeight).IsLossless

instance (s : TokenSet) : Decidable s.IsLossless :=
  inferInstanceAs (Decidable (∀ e ∈ s.typography.values, (Number.real e.lineHeight).IsLossless))

theorem fits (s : TokenSet) : Fits 3 s := by
  have colors : Fits 1 s.colors := fits_map fun x _ => fits_string x
  have typography : Fits 2 s.typography := fits_map fun e _ => fits_typographyEntry e
  have spacing : Fits 1 s.spacing := fits_map fun x _ => fits_string x
  have shadows : Fits 1 s.shadows := fits_map fun x _ => fits_string x
  refine ⟨⟨colors.sound, typography.sound, spacing.sound, shadows.sound, trivial⟩, ?_⟩
  have := colors.shallow
  have := typography.shallow
  have := spacing.shallow
  have := shadows.shallow
  show max (toJson s.colors).depth (max (toJson s.typography).depth
    (max (toJson s.spacing).depth (max (toJson s.shadows).depth 0))) + 1 ≤ 3
  omega

theorem comesBack_iff {s : TokenSet} : ComesBack s ↔ s.IsLossless := by
  have record : (toJson s).reread.record? knownFields = some
      [("colors", (toJson s.colors).reread), ("typography", (toJson s.typography).reread),
        ("spacing", (toJson s.spacing).reread), ("shadows", (toJson s.shadows).reread)] :=
    record?_own rfl (by decide) (by decide)
  have heights : ComesBack s.typography ↔ s.IsLossless :=
    comesBack_map_iff.trans (forall₂_congr fun _ _ => comesBack_typographyEntry_iff)
  have texts (m : OrderedMap String String) : ComesBack m :=
    comesBack_map_iff.mpr fun x _ => comesBack_string x
  rw [← heights, ComesBack]
  show ((toJson s).reread.record? knownFields).bind _ = some s ↔ _
  rw [record, Option.bind_some]
  constructor
  · intro back
    obtain ⟨_, _, back⟩ := Option.bind_eq_some_iff.mp back
    obtain ⟨typography, found, back⟩ := Option.bind_eq_some_iff.mp back
    obtain ⟨_, _, back⟩ := Option.bind_eq_some_iff.mp back
    obtain ⟨_, _, back⟩ := Option.bind_eq_some_iff.mp back
    cases back
    exact found
  · intro typography
    exact Option.bind_eq_some_iff.mpr ⟨s.colors, texts s.colors,
      Option.bind_eq_some_iff.mpr ⟨s.typography, typography,
      Option.bind_eq_some_iff.mpr ⟨s.spacing, texts s.spacing,
      Option.bind_eq_some_iff.mpr ⟨s.shadows, texts s.shadows, rfl⟩⟩⟩⟩

end TokenSet

/-! ## Versions -/

theorem Version.fits (v : Version) : Fits 4 v := by
  have timestamp := fits_int64 v.timestamp
  have tokens := v.tokens.fits
  refine ⟨⟨trivial, timestamp.sound, tokens.sound, trivial, trivial, trivial⟩, ?_⟩
  have := timestamp.shallow
  have := tokens.shallow
  show max 0 (max (toJson v.timestamp).depth (max (toJson v.tokens).depth
    (max 0 (max 0 0)))) + 1 ≤ 4
  omega

theorem Version.comesBack_iff {v : Version} : ComesBack v ↔ v.tokens.IsLossless := by
  have record : (toJson v).reread.record? Version.knownFields = some
      [("id", (toJson v.id).reread), ("timestamp", (toJson v.timestamp).reread),
        ("tokens", (toJson v.tokens).reread), ("description", (toJson v.description).reread),
        ("fileId", (toJson v.fileId).reread)] :=
    record?_own rfl (by decide) (by decide)
  rw [← TokenSet.comesBack_iff, ComesBack]
  show ((toJson v).reread.record? Version.knownFields).bind _ = some v ↔ _
  rw [record, Option.bind_some]
  constructor
  · intro back
    obtain ⟨_, _, back⟩ := Option.bind_eq_some_iff.mp back
    obtain ⟨_, _, back⟩ := Option.bind_eq_some_iff.mp back
    obtain ⟨tokens, found, back⟩ := Option.bind_eq_some_iff.mp back
    obtain ⟨_, _, back⟩ := Option.bind_eq_some_iff.mp back
    obtain ⟨_, _, back⟩ := Option.bind_eq_some_iff.mp back
    cases back
    exact found
  · intro tokens
    exact Option.bind_eq_some_iff.mpr ⟨v.id, rfl,
      Option.bind_eq_some_iff.mpr ⟨v.timestamp, comesBack_int64 v.timestamp,
      Option.bind_eq_some_iff.mpr ⟨v.tokens, tokens,
      Option.bind_eq_some_iff.mpr ⟨v.description, rfl,
      Option.bind_eq_some_iff.mpr ⟨v.fileId, rfl, rfl⟩⟩⟩⟩⟩

/-! ## Texts -/

/-- A list of versions is read back from its text exactly if the line heights in it come
through. -/
theorem read_versions_iff {vs : List Version} :
    (read? (toJson vs).compact).bind ofJson? = some vs ↔ ∀ v ∈ vs, v.tokens.IsLossless := by
  have fits : Fits 5 vs := fits_list fun v _ => v.fits
  rw [fits.read_iff (by decide), comesBack_list_iff]
  exact forall₂_congr fun _ _ => Version.comesBack_iff

/-- A token set is read back from its text exactly if its line heights come through. -/
theorem read_tokenSet_iff {s : TokenSet} :
    (read? (toJson s).compact).bind ofJson? = some s ↔ s.IsLossless :=
  (s.fits.read_iff (by decide)).trans TokenSet.comesBack_iff

theorem read_pretty_tokenSet_iff {s : TokenSet} :
    (read? (toJson s).pretty).bind ofJson? = some s ↔ s.IsLossless :=
  (s.fits.read_pretty_iff (by decide)).trans TokenSet.comesBack_iff

end DesignTokens
