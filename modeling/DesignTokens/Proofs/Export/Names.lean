import DesignTokens.Export.Variables
import DesignTokens.Proofs.Stylesheet.Properties
import DesignTokens.Proofs.Token.Slug

/-!
# Names of exported colors

Token sets are exported under the slugs of their keys, and keys are slugs
already.  So the names of a sheet, of a token set and of its exports agree as
long as the slug of a slug is the slug itself.
-/

namespace DesignTokens

open Naming

/-- The slug of a slug is the slug itself just if no word starts inside of it. -/
theorem Naming.kebab_kebab_iff (name : String) :
    kebab (kebab name) = kebab name ↔ Unbroken (kebab name).toList := by
  rw [← kebabChars_eq_self_iff (t := (kebab name).toList) (by
    rw [kebab, String.toList_ofList]
    exact isSlug_kebabChars _), kebab.eq_def (kebab name), ← String.toList_inj,
    String.toList_ofList]

theorem Token.kebab_slug_iff (t : Token) :
    kebab t.slug = t.slug ↔ Unbroken (kebab t.name).toList := by
  rw [← t.isSlug_slug.2, ← kebabChars_eq_self_iff t.isSlug_slug.1, kebab, ← String.toList_inj,
    String.toList_ofList]

namespace TokenSet

/-- The keys of the colors of a token set are the slugs of its color tokens. -/
theorem mem_keys_colors {ts : List Token} {key : String} :
    key ∈ (ofTokens ts).colors.keys ↔ ∃ t ∈ ts, t.color?.isSome ∧ t.slug = key := by
  rw [ofTokens_eq, OrderedMap.keys_ofList, List.mem_eraseDups, List.map_filterMap,
    List.mem_filterMap]
  refine exists_congr fun t => and_congr_right fun _ => ?_
  cases use : t.color? <;> simp [Token.entryOfColor?, use]

/-- Keys that are slugs of themselves are what a map is exported under. -/
theorem names_eq_keys_iff {m : OrderedMap String String} (kind : String) :
    ((properties kind m).map Prod.fst = m.keys.map (kind ++ "-" ++ ·) ↔
        ∀ key ∈ m.keys, kebab key = key) ∧
      (variableLines kind m = m.entries.map (fun entry =>
          "$" ++ kind ++ "-" ++ entry.1 ++ ": " ++ entry.2 ++ ";") ↔
        ∀ key ∈ m.keys, kebab key = key) := by
  rw [properties, variableLines, List.map_map, OrderedMap.keys, List.map_map, List.map_inj_left,
    List.map_inj_left, List.forall_mem_map]
  constructor
  · refine forall₂_congr fun entry _ => ?_
    simp
  · refine forall₂_congr fun entry _ => ?_
    simp

end TokenSet

/-- The slug of a slug is the slug itself just if no word starts inside of it, and
just then sheet, token set and exports give the colors of that name one name. -/
theorem color_names_agree_iff (name : String) (ts : List Token) :
    (kebab (kebab name) = kebab name ↔ Unbroken (kebab name).toList) ∧
    ((Sheet.ofTokens ts).themePart Sheet.colorStart).map Prod.fst
      = (TokenSet.ofTokens ts).colors.keys ∧
    ((TokenSet.properties "color" (TokenSet.ofTokens ts).colors).map Prod.fst
        = (TokenSet.ofTokens ts).colors.keys.map (Sheet.colorStart ++ ·) ↔
      ∀ t ∈ ts, t.color?.isSome → Unbroken (kebab t.name).toList) ∧
    (TokenSet.variableLines "color" (TokenSet.ofTokens ts).colors
        = (TokenSet.ofTokens ts).colors.entries.map (fun entry =>
          "$" ++ Sheet.colorStart ++ entry.1 ++ ": " ++ entry.2 ++ ";") ↔
      ∀ t ∈ ts, t.color?.isSome → Unbroken (kebab t.name).toList) := by
  have keys : (∀ key ∈ (TokenSet.ofTokens ts).colors.keys, kebab key = key) ↔
      ∀ t ∈ ts, t.color?.isSome → Unbroken (kebab t.name).toList := by
    constructor
    · intro same t member color
      exact t.kebab_slug_iff.mp (same t.slug (TokenSet.mem_keys_colors.mpr ⟨t, member, color, rfl⟩))
    · intro chains key member
      obtain ⟨t, here, color, rfl⟩ := TokenSet.mem_keys_colors.mp member
      exact t.kebab_slug_iff.mpr (chains t here color)
  obtain ⟨properties, lines⟩ :=
    TokenSet.names_eq_keys_iff (m := (TokenSet.ofTokens ts).colors) "color"
  exact ⟨kebab_kebab_iff name, Sheet.map_fst_themePart_colorStart ts, properties.trans keys,
    lines.trans keys⟩

/-- The double-struck capital R has no small form, so a word starts inside of the
slug of `Aℝ`.  A color of that name is exported under another name than that of
its key. -/
theorem kebab_kebab_double_struck :
    kebab "Aℝ" = "aℝ" ∧ kebab (kebab "Aℝ") = "a-ℝ" ∧
    let s := TokenSet.ofTokens [Token.ofColor "Aℝ" ⟨1, 0, 0, 1⟩]
    s.colors.keys = ["aℝ"] ∧
      (TokenSet.properties "color" s.colors).map Prod.fst = ["color-a-ℝ"] := by
  decide +kernel

end DesignTokens
