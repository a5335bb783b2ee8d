import DesignTokens.Export.Variables
import DesignTokens.Proofs.Generation.Lines
import DesignTokens.Proofs.Text.Separators

/-!
# Declarations in exports

Each line of an export that starts as a declaration does gives a name up to the
first colon.  The names of one kind have the name of the kind in front of the
first hyphen, and no kind has a hyphen in its own name, so names of different
kinds differ whatever the slugs behind them are.  No name of a part of a text
style ends with another one, so names with a part behind the slug differ as well.

Key definitions:

* `declaredNames` are the names that a text declares.
* `TokenSet.propertyNames` and `TokenSet.variableNames` are the names that a
  token set is exported under.
-/

namespace DesignTokens

open Naming Text

/-! ## Reading names -/

/-- The name that a line declares behind its start. -/
def declaredName? (start : String) (line : List Char) : Option String :=
  (restBehind? start line).map (fun rest => String.ofList (rest.toList.takeWhile (· ≠ ':')))

/-- The names that the lines of a text declare behind their start. -/
def declaredNames (start text : String) : List String :=
  (splitLines text.toList).filterMap (declaredName? start)

/-- Whether lines declare names behind their start. -/
structure Declare (start : String) (lines names : List String) : Prop where
  single : ∀ l ∈ lines, IsSingle l
  found : lines.filterMap (fun l => declaredName? start l.toList) = names

namespace Declare

variable {start : String} {lines more names others : List String}

theorem declaredNames_eq (given : start ≠ "") (declare : Declare start lines names) :
    declaredNames start (unlines lines) = names := by
  have single : ∀ l ∈ lines.map String.toList, '\n' ∉ l := List.forall_mem_map.mpr declare.single
  have last : declaredName? start [] = none := by rw [declaredName?, restBehind?_nil given]; rfl
  rw [declaredNames, toList_unlines, splitLines_unlineChars single, List.filterMap_append,
    List.filterMap_map, List.filterMap_cons_none last, List.filterMap_nil, List.append_nil]
  exact declare.found

theorem append (first : Declare start lines names) (second : Declare start more others) :
    Declare start (lines ++ more) (names ++ others) where
  single := List.forall_mem_append.mpr ⟨first.single, second.single⟩
  found := by rw [List.filterMap_append, first.found, second.found]

theorem nothing (outside : ∀ l ∈ lines, IsOther start l) : Declare start lines [] where
  single l member := (outside l member).1
  found := by
    refine List.filterMap_eq_nil_iff.mpr fun l member => ?_
    rw [declaredName?, restBehind?_eq_none (outside l member).2]
    rfl

theorem flatMap {α : Type} {entries : List α} {linesOf namesOf : α → List String}
    (each : ∀ e ∈ entries, Declare start (linesOf e) (namesOf e)) :
    Declare start (entries.flatMap linesOf) (entries.flatMap namesOf) := by
  induction entries with
  | nil => exact nothing (List.forall_mem_nil _)
  | cons e entries ih =>
    rw [List.forall_mem_cons] at each
    exact each.1.append (ih each.2)

theorem map {α : Type} {entries : List α} {lineOf nameOf : α → String}
    (each : ∀ e ∈ entries, Declare start [lineOf e] [nameOf e]) :
    Declare start (entries.map lineOf) (entries.map nameOf) := by
  rw [List.map_eq_flatMap, List.map_eq_flatMap]
  exact flatMap each

/-- A line declares what stands between its start and the first colon. -/
theorem line {name value ending : String} (left : IsSingle start) (plain : IsUnmarked name)
    (single : IsSingle value) (closed : IsSingle ending) (tidy : IsTidyLine ending.toList) :
    Declare start [start ++ name ++ ": " ++ value ++ ending] [name] where
  single := by
    have colon : IsSingle ": " := by decide
    exact List.forall_mem_singleton.mpr
      ((((left.append plain.isSingle).append colon).append single).append closed)
  found := by
    let rest := name ++ ": " ++ value ++ ending
    have shape : start ++ name ++ ": " ++ value ++ ending = start ++ rest := by
      simp only [rest, String.append_assoc]
    have front : rest.toList.takeWhile (· ≠ ':') = name.toList := by
      have inside : ∀ c ∈ name.toList, decide (c ≠ ':') = true := fun c member =>
        decide_eq_true fun colon => plain.not_mem (by decide : isStyleMark ':' = true)
          (colon ▸ member)
      simp only [rest, String.toList_append, List.append_assoc]
      rw [List.takeWhile_append_of_pos inside]
      simp
    rw [List.filterMap_cons, shape, declaredName?,
      restBehind?_append (isTidyLine_append tidy start (name ++ ": " ++ value)), Option.map_some,
      front, String.ofList_toList]
    rfl

end Declare

namespace TokenSet

/-! ## Names of a token set -/

/-- The names of the parts of a text style. -/
def partNames : List String :=
  ["font-family", "font-size", "font-weight", "line-height", "letter-spacing"]

/-- The names of several kinds, each with the name of its kind in front. -/
def namesOfKinds (kinds : List (String × List String)) : List String :=
  kinds.flatMap (fun kind => kind.2.map (kind.1 ++ "-" ++ ·))

/-- The slugs of keys with the parts of text styles behind them. -/
def partsOfKeys (keys : List String) : List String :=
  keys.flatMap (fun key => partNames.map (kebab key ++ "-" ++ ·))

/-- The names of the entries of a token set with given names of text styles. -/
def namesWith (s : TokenSet) (typography : List String) : List String :=
  namesOfKinds [("color", s.colors.keys.map kebab), ("typography", typography),
    ("spacing", s.spacing.keys.map kebab), ("shadow", s.shadows.keys.map kebab)]

/-- The custom properties that a token set is exported as. -/
def propertyNames (s : TokenSet) : List String := s.namesWith (partsOfKeys s.typography.keys)

/-- The variables that a token set is exported as. -/
def variableNames (s : TokenSet) : List String := s.namesWith (s.typography.keys.map kebab)

/-- Whether no value of a token set has a line break. -/
structure HasSingleValues (s : TokenSet) : Prop where
  colors : ∀ value ∈ s.colors.values, IsSingle value
  typography : ∀ e ∈ s.typography.values,
    IsSingle e.fontFamily ∧ IsSingle e.fontSize ∧ IsSingle e.letterSpacing
  spacing : ∀ value ∈ s.spacing.values, IsSingle value
  shadows : ∀ value ∈ s.shadows.values, IsSingle value

/-- Whether no two keys of one kind have the same slug. -/
structure HasDistinctSlugs (s : TokenSet) : Prop where
  colors : (s.colors.keys.map kebab).Nodup
  typography : (s.typography.keys.map kebab).Nodup
  spacing : (s.spacing.keys.map kebab).Nodup
  shadows : (s.shadows.keys.map kebab).Nodup

/-! ## Declared names -/

section Parts

variable {e : TypographyEntry} {part : String × String}

theorem isUnmarked_of_mem_parts (member : part ∈ e.parts) : IsUnmarked part.1 := by
  have names : ∀ name ∈ partNames, IsUnmarked name := by decide
  exact names part.1 (List.mem_map_of_mem member)

theorem isSingle_of_mem_parts
    (single : IsSingle e.fontFamily ∧ IsSingle e.fontSize ∧ IsSingle e.letterSpacing)
    (member : part ∈ e.parts) : IsSingle part.2 := by
  obtain ⟨family, size, spacing⟩ := single
  have weight : Decimal.IsNumeral (Decimal.wholeText e.fontWeight.toNat) :=
    Decimal.isNumeral_ofList fun c => Decimal.isDigit_of_mem_digits
  have height : Decimal.IsNumeral (Css.number e.lineHeight) := Css.isNumeral_number e.lineHeight
  simp only [TypographyEntry.parts, List.mem_cons, List.not_mem_nil, or_false] at member
  rcases member with rfl | rfl | rfl | rfl | rfl
  · exact family
  · exact size
  · exact weight.isUnmarked.isSingle
  · exact height.isUnmarked.isSingle
  · exact spacing

end Parts

theorem declare_propertyLine {property : String × String} (plain : IsUnmarked property.1)
    (single : IsSingle property.2) : Declare "  --" [propertyLine property] [property.1] :=
  .line (by decide) plain single (by decide) ⟨[], ';', rfl, by decide⟩

theorem declare_properties (kind : String) (plain : IsUnmarked (kind ++ "-"))
    {m : OrderedMap String String} (single : ∀ value ∈ m.values, IsSingle value) :
    Declare "  --" ((properties kind m).map propertyLine)
      ((m.keys.map kebab).map (kind ++ "-" ++ ·)) := by
  rw [properties, OrderedMap.keys, List.map_map, List.map_map, List.map_map]
  exact .map fun entry member => declare_propertyLine (plain.append (isUnmarked_kebab entry.1))
    (single entry.2 (List.mem_map_of_mem member))

theorem declare_typographyProperties {m : OrderedMap String TypographyEntry}
    (single : ∀ e ∈ m.values,
      IsSingle e.fontFamily ∧ IsSingle e.fontSize ∧ IsSingle e.letterSpacing) :
    Declare "  --" ((typographyProperties m).map propertyLine)
      ((partsOfKeys m.keys).map ("typography" ++ "-" ++ ·)) := by
  rw [typographyProperties, partsOfKeys, OrderedMap.keys, List.map_flatMap, List.flatMap_map,
    List.map_flatMap]
  refine .flatMap fun entry member => ?_
  have start : IsUnmarked ("typography-" ++ kebab entry.1 ++ "-") :=
    (IsUnmarked.append (by decide) (isUnmarked_kebab entry.1)).append (by decide)
  have names : (partNames.map (kebab entry.1 ++ "-" ++ ·)).map ("typography" ++ "-" ++ ·) =
      entry.2.parts.map (fun part => "typography-" ++ kebab entry.1 ++ "-" ++ part.1) := by
    have known : partNames = entry.2.parts.map Prod.fst := rfl
    have joined : "typography-" = "typography" ++ "-" := rfl
    rw [known, List.map_map, List.map_map, joined]
    exact List.map_congr_left fun part _ => by simp only [Function.comp_apply, String.append_assoc]
  rw [names, List.map_map]
  refine .map fun part inside => ?_
  have value : IsSingle part.2 :=
    isSingle_of_mem_parts (single entry.2 (List.mem_map_of_mem member)) inside
  exact declare_propertyLine (start.append (isUnmarked_of_mem_parts inside)) value

/-- Custom properties come kind by kind in the order of the entries. -/
theorem declaredNames_css {s : TokenSet} (single : s.HasSingleValues) :
    declaredNames "  --" s.css = s.propertyNames := by
  have colors := declare_properties "color" (by decide) single.colors
  have typography := declare_typographyProperties single.typography
  have spacing := declare_properties "spacing" (by decide) single.spacing
  have shadows := declare_properties "shadow" (by decide) single.shadows
  have opening : Declare "  --" [":root \x7b"] [] := .nothing (by decide)
  have closing : Declare "  --" ["\x7d"] [] := .nothing (by decide)
  have lines := (opening.append (((colors.append typography).append spacing).append shadows)).append
    closing
  rw [css, cssProperties, List.map_append, List.map_append, List.map_append,
    lines.declaredNames_eq (by decide), propertyNames, namesWith, namesOfKinds]
  simp only [List.flatMap_cons, List.flatMap_nil, List.nil_append, List.append_nil,
    List.append_assoc]

theorem declare_variableLines (kind : String) (plain : IsUnmarked (kind ++ "-"))
    {m : OrderedMap String String} (single : ∀ value ∈ m.values, IsSingle value) :
    Declare "$" (variableLines kind m) ((m.keys.map kebab).map (kind ++ "-" ++ ·)) := by
  rw [variableLines, OrderedMap.keys, List.map_map, List.map_map]
  refine .map fun entry member => ?_
  have shape : "$" ++ kind ++ "-" ++ kebab entry.1 ++ ": " ++ entry.2 ++ ";" =
      "$" ++ (kind ++ "-" ++ kebab entry.1) ++ ": " ++ entry.2 ++ ";" := by
    simp only [String.append_assoc]
  rw [shape]
  exact .line (by decide) (plain.append (isUnmarked_kebab entry.1))
    (single entry.2 (List.mem_map_of_mem member)) (by decide) ⟨[], ';', rfl, by decide⟩

/-- The lines of parts declare nothing, since they are indented. -/
theorem isOther_of_mem_partLines {parts : List (String × String)}
    (single : ∀ part ∈ parts, IsSingle part.1 ∧ IsSingle part.2) :
    ∀ l ∈ partLines parts, IsOther "$" l := by
  have indented : HasLeft "$" "  " := by decide
  have each {part : String × String} (single : IsSingle part.1 ∧ IsSingle part.2) {ending : String}
      (closed : IsSingle ending) : IsOther "$" ("  " ++ part.1 ++ ": " ++ part.2 ++ ending) :=
    ((((indented.append single.1).append (by decide)).append single.2).append closed).isOther
  fun_induction partLines parts with
  | case1 => exact List.forall_mem_nil _
  | case2 part =>
    rw [List.forall_mem_singleton] at single
    have line := each single (by decide : IsSingle "")
    rw [String.append_empty] at line
    exact List.forall_mem_singleton.mpr line
  | case3 part parts _ ih =>
    rw [List.forall_mem_cons] at single
    exact List.forall_mem_cons.mpr ⟨each single.1 (by decide), ih single.2⟩

theorem declare_typographyLines {m : OrderedMap String TypographyEntry}
    (single : ∀ e ∈ m.values,
      IsSingle e.fontFamily ∧ IsSingle e.fontSize ∧ IsSingle e.letterSpacing) :
    Declare "$" (typographyLines m) ((m.keys.map kebab).map ("typography" ++ "-" ++ ·)) := by
  rw [typographyLines, OrderedMap.keys, List.map_map, List.map_map, List.map_eq_flatMap]
  refine .flatMap fun entry member => ?_
  have opening : Declare "$" ["$typography-" ++ kebab entry.1 ++ ": ("]
      ["typography-" ++ kebab entry.1] := by
    have plain : IsUnmarked ("typography-" ++ kebab entry.1) :=
      IsUnmarked.append (by decide) (isUnmarked_kebab entry.1)
    have shape : "$typography-" ++ kebab entry.1 ++ ": (" =
        "$" ++ ("typography-" ++ kebab entry.1) ++ ": " ++ "" ++ "(" := by
      rw [← String.toList_inj]
      simp
    rw [shape]
    exact .line (by decide) plain (by decide) (by decide) ⟨[], '(', rfl, by decide⟩
  have parts : Declare "$" (partLines entry.2.parts) [] :=
    .nothing (isOther_of_mem_partLines fun part inside =>
      ⟨(isUnmarked_of_mem_parts inside).isSingle,
        isSingle_of_mem_parts (single entry.2 (List.mem_map_of_mem member)) inside⟩)
  have closing : Declare "$" [");"] [] := .nothing (by decide)
  exact (opening.append parts).append closing

/-- Variables come kind by kind in the order of the entries. -/
theorem declaredNames_scss {s : TokenSet} (single : s.HasSingleValues) :
    declaredNames "$" s.scss = s.variableNames := by
  have colors := declare_variableLines "color" (by decide) single.colors
  have typography := declare_typographyLines single.typography
  have spacing := declare_variableLines "spacing" (by decide) single.spacing
  have shadows := declare_variableLines "shadow" (by decide) single.shadows
  have heading (lines : List String) (other : ∀ l ∈ lines, IsOther "$" l) :
      Declare "$" lines [] := .nothing other
  have lines := (((((((heading ["// Design Tokens", "", "// Colors"] (by decide)).append
    colors).append (heading ["", "// Typography"] (by decide))).append typography).append
    (heading ["", "// Spacing"] (by decide))).append spacing).append
    (heading ["", "// Shadows"] (by decide))).append shadows
  rw [scss, lines.declaredNames_eq (by decide), variableNames, namesWith, namesOfKinds]
  simp only [List.flatMap_cons, List.flatMap_nil, List.nil_append, List.append_nil,
    List.append_assoc]

/-! ## Names apart -/

/-- Kinds without hyphens keep names apart, whatever stands behind the first hyphen. -/
theorem nodup_namesOfKinds {kinds : List (String × List String)}
    (words : ∀ name ∈ kinds.map Prod.fst, '-' ∉ name.toList) (apart : (kinds.map Prod.fst).Nodup)
    (each : ∀ kind ∈ kinds, kind.2.Nodup) : (namesOfKinds kinds).Nodup := by
  rw [namesOfKinds, List.nodup_flatMap]
  refine ⟨fun kind member => (each kind member).map fun _ _ same =>
    (String.append_right_inj _).mp same, ?_⟩
  refine (List.pairwise_map.mp apart).imp_of_mem fun {kind other} here there differ name inside
    outside => differ ?_
  obtain ⟨rest, _, rfl⟩ := List.mem_map.mp inside
  obtain ⟨rest', _, same⟩ := List.mem_map.mp outside
  have chars : other.1.toList ++ '-' :: rest'.toList = kind.1.toList ++ '-' :: rest.toList := by
    simpa using congrArg String.toList same
  have names := (eq_of_split_at_first (words other.1 (List.mem_map_of_mem there))
    (words kind.1 (List.mem_map_of_mem here)) chars).1
  exact String.toList_inj.mp names.symm

/-- What stands in front of a part can be told from the whole. -/
theorem eq_of_append_part {slug other part part' : String} (known : part ∈ partNames)
    (known' : part' ∈ partNames) (same : slug ++ "-" ++ part = other ++ "-" ++ part') :
    slug = other := by
  have ends : ∀ p ∈ partNames, ∀ q ∈ partNames, p.toList <:+ q.toList → p = q := by decide
  have chars : (slug ++ "-").toList ++ part.toList = (other ++ "-").toList ++ part'.toList := by
    rw [← String.toList_append, same, String.toList_append]
  -- Of two ends of one text one is an end of the other.
  have parts : part = part' := by
    rcases List.suffix_or_suffix_of_suffix (List.suffix_append _ _) ⟨_, chars.symm⟩ with end' | end'
    · exact ends part known part' known' end'
    · exact (ends part' known' part known end').symm
  rw [parts, String.append_assoc, String.append_assoc] at same
  exact (String.append_left_inj _).mp same

theorem nodup_partsOfKeys {keys : List String} (apart : (keys.map kebab).Nodup) :
    (partsOfKeys keys).Nodup := by
  have names : partNames.Nodup := by decide
  rw [partsOfKeys, List.nodup_flatMap]
  refine ⟨fun key _ => names.map fun _ _ same => (String.append_right_inj _).mp same, ?_⟩
  refine (List.pairwise_map.mp apart).imp fun differ name inside outside => differ ?_
  obtain ⟨part, known, rfl⟩ := List.mem_map.mp inside
  obtain ⟨part', known', same⟩ := List.mem_map.mp outside
  exact (eq_of_append_part known' known same).symm

section Apart

variable {s : TokenSet}

theorem nodup_namesWith (distinct : s.HasDistinctSlugs) {typography : List String}
    (apart : typography.Nodup) : (s.namesWith typography).Nodup := by
  have words : ∀ name ∈ ["color", "typography", "spacing", "shadow"], '-' ∉ name.toList := by
    decide
  have kinds : ["color", "typography", "spacing", "shadow"].Nodup := by decide
  refine nodup_namesOfKinds words kinds fun kind member => ?_
  simp only [List.mem_cons, List.not_mem_nil, or_false] at member
  rcases member with rfl | rfl | rfl | rfl
  · exact distinct.colors
  · exact apart
  · exact distinct.spacing
  · exact distinct.shadows

/-- An export without line breaks in its values declares one name for each entry and each part of
a text style, kind by kind and in the order of the entries.  No name is declared twice if the keys
of each kind have different slugs. -/
theorem exports_declare_names_once (single : s.HasSingleValues) (distinct : s.HasDistinctSlugs) :
    (declaredNames "  --" s.css = s.propertyNames ∧ (declaredNames "  --" s.css).Nodup) ∧
    (declaredNames "$" s.scss = s.variableNames ∧ (declaredNames "$" s.scss).Nodup) := by
  rw [declaredNames_css single, declaredNames_scss single]
  exact ⟨⟨rfl, nodup_namesWith distinct (nodup_partsOfKeys distinct.typography)⟩,
    rfl, nodup_namesWith distinct distinct.typography⟩

end Apart

/-- Entries whose keys look like those of other kinds and like parts of text styles. -/
def lookalikes : TokenSet :=
  let style : TypographyEntry := ⟨"Inter", "16px", 400, 1.5, "0px"⟩
  { colors := .ofList [("Typography A", "red"), ("shadow", "blue")]
    typography := .ofList [("a", style), ("a font-size", style)]
    spacing := .ofList [("color shadow", "4px")]
    shadows := .ofList [("a", "none")] }

theorem exports_declare_names_once_lookalikes :
    lookalikes.HasSingleValues ∧ lookalikes.HasDistinctSlugs ∧
    declaredNames "  --" lookalikes.css =
      ["color-typography-a", "color-shadow",
        "typography-a-font-family", "typography-a-font-size", "typography-a-font-weight",
        "typography-a-line-height", "typography-a-letter-spacing",
        "typography-a-font-size-font-family", "typography-a-font-size-font-size",
        "typography-a-font-size-font-weight", "typography-a-font-size-line-height",
        "typography-a-font-size-letter-spacing",
        "spacing-color-shadow", "shadow-a"] ∧
    (declaredNames "  --" lookalikes.css).Nodup ∧
    declaredNames "$" lookalikes.scss =
      ["color-typography-a", "color-shadow", "typography-a", "typography-a-font-size",
        "spacing-color-shadow", "shadow-a"] ∧
    (declaredNames "$" lookalikes.scss).Nodup := by
  have single : lookalikes.HasSingleValues :=
    ⟨by decide +kernel, by decide +kernel, by decide +kernel, by decide +kernel⟩
  have distinct : lookalikes.HasDistinctSlugs :=
    ⟨by decide +kernel, by decide +kernel, by decide +kernel, by decide +kernel⟩
  obtain ⟨⟨names, once⟩, names', once'⟩ := exports_declare_names_once single distinct
  refine ⟨single, distinct, names.trans ?_, once, names'.trans ?_, once'⟩
  · decide +kernel
  · decide +kernel

end TokenSet

end DesignTokens
