import DesignTokens.Proofs.Json.Record
import DesignTokens.Proofs.Stylesheet.Nesting
import DesignTokens.Proofs.Text.Reading

/-!
# One sheet in three syntaxes

What CSS, SCSS and a Tailwind configuration say of a sheet is read from their
texts and compared: all three have its custom properties, and the first two its
rules.

Key definitions: `Theme.ofText?`, `Theme.IsOf`.
-/

namespace DesignTokens

open Json Text

/-! ## Themes -/

/-- The content of a field of an object. -/
def Json.field? (key : String) : Json → Option Json
  | .obj fields => get? fields key
  | _ => none

/-- A field that holds a text. -/
def Json.textField? : String × Json → Option (String × String)
  | (key, .str text) => some (key, text)
  | _ => none

/-- The texts in an object with their names. -/
def Json.texts? : Json → Option (List (String × String))
  | .obj fields => fields.mapM textField?
  | _ => none

/-- The maps of a Tailwind configuration, each in its order. -/
structure Theme where
  colors : List (String × String)
  fontSizes : List (String × String)
  lineHeights : List (String × String)

/-- The maps in the document of a Tailwind configuration. -/
def Theme.ofJson? (document : Json) : Option Theme := do
  let extension ← (← document.field? "theme").field? "extend"
  let colors ← (← extension.field? "colors").texts?
  let fontSizes ← (← extension.field? "fontSize").texts?
  let lineHeights ← (← extension.field? "lineHeight").texts?
  return ⟨colors, fontSizes, lineHeights⟩

/-- The document in a Tailwind configuration. -/
def configured? (text : String) : Option String :=
  (behind? "module.exports = " text).bind (before? ";\n")

theorem configured?_append (text : String) :
    configured? ("module.exports = " ++ text ++ ";\n") = some text := by
  rw [configured?, String.append_assoc, behind?_append, Option.bind_some, before?_append]

/-- Reads the maps of a Tailwind configuration. -/
def Theme.ofText? (text : String) : Option Theme :=
  ((configured? text).bind read?).bind Theme.ofJson?

namespace Sheet

/-- The theme of a sheet. -/
def theme (s : Sheet) : Theme :=
  ⟨s.themePart colorStart, s.themePart fontSizeStart, s.themePart lineHeightStart⟩

theorem texts?_themeJson (part : List (String × String)) : (themeJson part).texts? = some part := by
  have back : ∀ v ∈ part, textField? (v.1, .str v.2) = some (id v) := fun _ _ => rfl
  rw [themeJson, texts?, mapM_map_eq_some back, List.map_id]

theorem isSound_themeJson (part : List (String × String)) : IsSound (themeJson part) :=
  haveSound_iff.mpr (List.forall_mem_map.mpr fun _ _ => trivial)

theorem isLossless_themeJson (part : List (String × String)) : (themeJson part).IsLossless :=
  isLossless_obj_iff.mpr (List.forall_mem_map.mpr fun _ _ => List.forall_mem_nil _)

theorem depth_themeJson (part : List (String × String)) : (themeJson part).depth ≤ 1 := by
  have fields : fieldDepth (part.map (fun v => (v.1, Json.str v.2))) ≤ 0 :=
    fieldDepth_le_iff.mpr (List.forall_mem_map.mpr fun _ _ => Nat.le_refl 0)
  show fieldDepth (part.map (fun v => (v.1, Json.str v.2))) + 1 ≤ 1
  omega

/-- The text of a Tailwind configuration is read as the theme of the sheet. -/
theorem ofText?_tailwind (s : Sheet) : Theme.ofText? s.tailwind = some s.theme := by
  have sound : IsSound s.tailwindJson := by
    simp only [tailwindJson, IsSound, HaveSound, isSound_themeJson, and_self]
  have shallow : s.tailwindJson.depth ≤ depthLimit := by
    have colors := depth_themeJson (s.themePart colorStart)
    have sizes := depth_themeJson (s.themePart fontSizeStart)
    have heights := depth_themeJson (s.themePart lineHeightStart)
    simp only [tailwindJson, depth, fieldDepth, depthLimit]
    omega
  -- There are no numbers in a theme that could be lost.
  have lossless : s.tailwindJson.IsLossless := by
    simp [tailwindJson, isLossless_obj_iff, isLossless_themeJson]
  have parts : Theme.ofJson? s.tailwindJson = some s.theme := by
    have texts (start : String) := texts?_themeJson (s.themePart start)
    simp [tailwindJson, Theme.ofJson?, field?, get?, List.lookup_cons, texts, theme]
  refine Option.bind_eq_some_iff.mpr ⟨s.tailwindJson, ?_, parts⟩
  exact Option.bind_eq_some_iff.mpr
    ⟨s.tailwindJson.pretty, configured?_append _, by
      rw [read?_pretty sound shallow, reread_of_isLossless lossless]⟩

end Sheet

/-! ## Parts of a list of properties -/

/-- Properties with a start in front of their names. -/
def under (start : String) (part : List (String × String)) : List (String × String) :=
  part.map (fun v => (start ++ v.1, v.2))

/-- Whether a name starts in some way. -/
def startsWith (start : String) (v : String × String) : Bool := (behind? start v.1).isSome

/-- With the start of their names back in front, the properties of a part are those
of the sheet whose names start so. -/
theorem under_themePart (s : Sheet) (start : String) :
    under start (s.themePart start) = s.properties.entries.filter (startsWith start) := by
  rw [under, Sheet.themePart, List.map_filterMap, ← List.filterMap_eq_filter]
  refine List.filterMap_congr fun v _ => ?_
  cases found : behind? start v.1 with
  | none => simp [Option.guard, startsWith, found]
  | some rest =>
    have name : start ++ rest = v.1 := (behind?_eq_some_iff.mp found).symm
    simp [Option.guard, startsWith, found, name]

/-- Whether a theme has some properties: each of its maps has its part of them in
their order, and together the maps have them all. -/
structure Theme.IsOf (theme : Theme) (properties : List (String × String)) : Prop where
  colors : (under Sheet.colorStart theme.colors).Sublist properties
  fontSizes : (under Sheet.fontSizeStart theme.fontSizes).Sublist properties
  lineHeights : (under Sheet.lineHeightStart theme.lineHeights).Sublist properties
  all : (under Sheet.colorStart theme.colors ++ under Sheet.fontSizeStart theme.fontSizes
    ++ under Sheet.lineHeightStart theme.lineHeights).Perm properties

namespace Sheet

/-- The name of a property starts with the name of its kind. -/
theorem exists_start_of_mem_entries {ts : List Token} {v : String × String}
    (member : v ∈ (ofTokens ts).properties.entries) :
    ∃ start ∈ starts, startsWith start v = true := by
  rw [properties_ofTokens] at member
  obtain ⟨t, _, given⟩ := List.mem_flatMap.mp (OrderedMap.mem_of_mem_entries_ofList member)
  have kind {start : String} (known : start ∈ starts) (value : String) :
      ∃ other ∈ starts, startsWith other (start ++ t.slug, value) = true :=
    ⟨start, known, by rw [startsWith, behind?_append]; rfl⟩
  rw [Token.propertyEntries] at given
  cases payload : t.payload with
  | color use =>
    simp only [payload, List.mem_singleton] at given
    exact given ▸ kind (by decide) _
  | typography text =>
    simp only [payload, List.mem_cons, List.not_mem_nil, or_false] at given
    rcases given with rfl | rfl
    · exact kind (by decide) _
    · exact kind (by decide) _
  | _ => simp [payload] at given

/-- No name starts like two kinds. -/
theorem startsWith_apart {start other : String} (kind : start ∈ starts) (kind' : other ∈ starts)
    (differ : start ≠ other) {v : String × String} (here : startsWith start v = true) :
    startsWith other v = false := by
  obtain ⟨rest, found⟩ := Option.isSome_iff_exists.mp here
  rw [startsWith, behind?_eq_some_iff.mp found, behind?_start kind' kind, if_neg differ.symm]
  rfl

/-- The theme of a sheet has its properties. -/
theorem theme_isOf (ts : List Token) :
    (ofTokens ts).theme.IsOf (ofTokens ts).properties.entries := by
  have sublist (start : String) : (under start ((ofTokens ts).themePart start)).Sublist
      (ofTokens ts).properties.entries := by
    rw [under_themePart]
    exact List.filter_sublist
  have apart : starts.Pairwise (fun start other => ∀ v ∈ (ofTokens ts).properties.entries,
      startsWith start v = true → startsWith other v = false) := by
    have nodup : starts.Nodup := by decide
    exact nodup.imp_of_mem fun kind kind' differ v _ here => startsWith_apart kind kind' differ here
  have perm := perm_flatMap_filter apart fun v member => exists_start_of_mem_entries member
  have parts : starts.flatMap
        (fun start => (ofTokens ts).properties.entries.filter (startsWith start))
      = under colorStart (ofTokens ts).theme.colors
        ++ under fontSizeStart (ofTokens ts).theme.fontSizes
        ++ under lineHeightStart (ofTokens ts).theme.lineHeights := by
    simp only [starts, theme, under_themePart, List.flatMap_cons, List.flatMap_nil, List.append_nil,
      List.append_assoc]
  exact ⟨sublist colorStart, sublist fontSizeStart, sublist lineHeightStart, parts ▸ perm⟩

end Sheet

/-! ## The three syntaxes -/

/-- The texts of a sheet in CSS, in SCSS and as a Tailwind configuration carry one
sheet.  CSS has the properties and then its rules; SCSS has the properties as
variables and nests the same rules; the maps of the configuration have the
properties without the starts of their names. -/
theorem syntaxes_carry_one_sheet (ts : List Token) :
    ∃ (rules nested : List Statement) (theme : Theme),
      Statement.ofText? (Sheet.ofTokens ts).css = some (.block ":root"
          (declarationStatements (under "--" (Sheet.ofTokens ts).properties.entries)) :: rules)
      ∧ Statement.ofText? (Sheet.ofTokens ts).scss = some nested
      ∧ Theme.ofText? (Sheet.ofTokens ts).tailwind = some theme
      ∧ IsNestingOf nested rules
      ∧ nested.filterMap Statement.declaration?
        = under "$" (Sheet.ofTokens ts).properties.entries
      ∧ theme.IsOf (Sheet.ofTokens ts).properties.entries
      ∧ (Sheet.ofTokens ts).properties.keys.Nodup := by
  have legible := Sheet.isLegible_ofTokens ts
  refine ⟨_, _, _, Sheet.ofText?_css legible, Sheet.ofText?_scss legible,
    Sheet.ofText?_tailwind _, Sheet.isNestingOf_statements legible, ?_, Sheet.theme_isOf ts,
    (Sheet.ofTokens ts).properties.nodup⟩
  exact Sheet.filterMap_declaration?_scssStatements _

end DesignTokens
