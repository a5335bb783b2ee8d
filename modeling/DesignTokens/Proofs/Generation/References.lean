import DesignTokens.Proofs.Generation.Apart
import DesignTokens.Proofs.Generation.Lines
import DesignTokens.Proofs.Json.Lexemes

/-!
# References in generated files

The source of a component refers to its stylesheet, and the module of Angular to
the sources of all components.  The references are found in the texts of the
files, line by line.

Key definitions:

* `GeneratedFile.styleImports` and `GeneratedFile.styleUrls` are references to
  stylesheets.
* `GeneratedFile.imports` are names with the files that they come from.
* `GeneratedFile.classes` and `GeneratedFile.listed` are the classes that a file
  declares, and those that it lists.
-/

namespace DesignTokens

open Naming Text

/-! ## Reading files -/

/-- The items between commas. -/
def itemsOf (text : String) : List String :=
  if text.isEmpty then []
  else (text.toList.splitOn ',').map (fun item => String.ofList (item.dropWhile (· = ' ')))

/-- What stands in front of the first blank. -/
def wordOf (text : String) : String := String.ofList (text.toList.takeWhile (· ≠ ' '))

/-- The name and the file of an import. -/
def importOf? (text : String) : Option (String × String) :=
  ((behind? (wordOf text ++ " \x7d from '") text).bind (before? "';")).map
    (fun reference => (wordOf text, reference))

namespace GeneratedFile

/-- The stylesheets that a file imports. -/
def styleImports (f : GeneratedFile) : List String :=
  between "@import '" "';" f.content

/-- The stylesheets that a file names for a component. -/
def styleUrls (f : GeneratedFile) : List String :=
  between "  styleUrls: ['" "']," f.content

/-- The names that a file imports, with the files that they come from. -/
def imports (f : GeneratedFile) : List (String × String) :=
  (restsBehind "import \x7b " f.content).filterMap importOf?

/-- The classes that a file declares. -/
def classes (f : GeneratedFile) : List String :=
  (restsBehind "export class " f.content).map wordOf

/-- The lists that a file gives for a field. -/
def listed (f : GeneratedFile) (field : String) : List (List String) :=
  (between ("  " ++ field ++ ": [") "]," f.content).map itemsOf

end GeneratedFile

theorem wordOf_append {word : String} (whole : ' ' ∉ word.toList) (rest : String) :
    wordOf (word ++ " " ++ rest) = word := by
  have shown : ∀ c ∈ word.toList, decide (c ≠ ' ') = true := by
    intro c member
    refine decide_eq_true ?_
    rintro rfl
    exact whole member
  have text : (word ++ " " ++ rest).toList = word.toList ++ ' ' :: rest.toList := by simp
  rw [wordOf, text, List.takeWhile_append_of_pos shown, List.takeWhile_cons_of_neg (by decide),
    List.append_nil, String.ofList_toList]

theorem importOf?_append {name : String} (whole : ' ' ∉ name.toList) (reference : String) :
    importOf? (name ++ " \x7d from '" ++ reference ++ "';") = some (name, reference) := by
  have word : wordOf (name ++ " \x7d from '" ++ reference ++ "';") = name := by
    have text : name ++ " \x7d from '" ++ reference ++ "';"
        = name ++ " " ++ ("\x7d from '" ++ reference ++ "';") := by
      rw [← String.toList_inj]
      simp
    rw [text, wordOf_append whole]
  rw [importOf?, word, String.append_assoc, behind?_append, Option.bind_some, before?_append]
  rfl

theorem toList_intercalate_comma (before : List Char) (name : String) (names : List String) :
    before ++ (", ".intercalate (name :: names)).toList
      = [','].intercalate ((before ++ name.toList) :: names.map (fun n => ' ' :: n.toList)) := by
  induction names generalizing before name with
  | nil => simp
  | cons next names ih =>
    have rest := ih [' '] next
    rw [List.singleton_append, List.singleton_append] at rest
    rw [List.map_cons, List.intercalate_cons_cons, ← rest, String.intercalate_cons_cons]
    simp

/-- Items are found again between their commas. -/
theorem itemsOf_intercalate {names : List String}
    (plain : ∀ n ∈ names, ',' ∉ n.toList ∧ ' ' ∉ n.toList ∧ n ≠ "") :
    itemsOf (", ".intercalate names) = names := by
  cases names with
  | nil => decide
  | cons name names =>
    have chars : (", ".intercalate (name :: names)).toList
        = [','].intercalate (name.toList :: names.map (fun n => ' ' :: n.toList)) :=
      toList_intercalate_comma [] name names
    have given : (", ".intercalate (name :: names)).isEmpty = false := by
      obtain ⟨_, _, given⟩ := plain name List.mem_cons_self
      rw [Bool.eq_false_iff, ne_eq, String.isEmpty_iff]
      intro empty
      rw [← String.toList_inj, Json.toList_intercalate_cons, String.toList_empty,
        List.append_eq_nil_iff] at empty
      exact given (String.toList_eq_nil_iff.mp empty.1)
    have apart : ∀ item ∈ name.toList :: names.map (fun n => ' ' :: n.toList), ',' ∉ item := by
      rw [List.forall_mem_cons, List.forall_mem_map]
      refine ⟨(plain name List.mem_cons_self).1, fun n member => ?_⟩
      rw [List.mem_cons, not_or]
      exact ⟨by decide, (plain n (List.mem_cons_of_mem _ member)).1⟩
    have shown : ∀ n ∈ name :: names, n.toList.dropWhile (· = ' ') = n.toList := by
      intro n member
      cases chars : n.toList with
      | nil => rfl
      | cons c cs =>
        have blank : ' ' ∉ n.toList := (plain n member).2.1
        rw [chars, List.mem_cons, not_or] at blank
        rw [List.dropWhile_cons_of_neg]
        simpa using Ne.symm blank.1
    -- A blank stands in front of each item but the first.
    have dropped : (name.toList :: names.map (fun n => ' ' :: n.toList)).map
        (fun item => String.ofList (item.dropWhile (· = ' '))) = name :: names := by
      rw [List.map_cons, shown name List.mem_cons_self, List.map_map, String.ofList_toList]
      refine congrArg _ ((List.map_congr_left fun n member => ?_).trans (List.map_id _))
      show String.ofList (n.toList.dropWhile (· = ' ')) = n
      rw [shown n (List.mem_cons_of_mem _ member), String.ofList_toList]
    rw [itemsOf, given, chars, List.splitOn_intercalate ',' apart (List.cons_ne_nil _ _)]
    exact dropped

/-! ## References in sources -/

theorem isTidyLine_endings : ∀ ending ∈ ["';", "'],", "],"], IsTidyLine ending.toList := by
  intro ending member
  simp only [List.mem_cons, List.not_mem_nil, or_false] at member
  rcases member with rfl | rfl | rfl
  · exact ⟨['\''], ';', rfl, by decide⟩
  · exact ⟨['\'', ']'], ',', rfl, by decide⟩
  · exact ⟨[']'], ',', rfl, by decide⟩

namespace Generator

/-- A source for Vue imports the stylesheet of its component and no other. -/
theorem Vue.styleImports_source (options : GenerationOptions) (c : Component) :
    (Vue.source options c).styleImports = [styleReference options c] := by
  have after : IsOther "@import '" "</style>" := by decide
  have single : IsSingle ("@import '" ++ (styleReference options c ++ "';")) :=
    .append (by decide) ((isSingle_styleReference options c).append (by decide))
  have outside : ∀ l ∈ lines options c ++ ["</style>"], IsOther "@import '" l :=
    List.forall_mem_append.mpr
      ⟨isOther_of_mem_lines options c, List.forall_mem_singleton.mpr after⟩
  rw [GeneratedFile.styleImports, content_source]
  exact between_unlines (by decide) outside single (isTidyLine_endings _ (by decide))

namespace Angular

theorem isUnmarked_className (c : Component) : IsUnmarked (className c) :=
  (isUnmarked_pascal c.name).append (by decide)

theorem className_shown (c : Component) :
    ',' ∉ (className c).toList ∧ ' ' ∉ (className c).toList ∧ className c ≠ "" := by
  have outside : ∀ d, ¬ IsIdentifierChar d → d ∉ "Component".toList → d ∉ (className c).toList := by
    intro d other absent
    rw [className, String.toList_append, List.mem_append, not_or]
    exact ⟨fun member => other (isIdentifierChar_of_mem_pascal c.name d member), absent⟩
  refine ⟨outside _ (by decide) (by decide), outside _ (by decide) (by decide), ?_⟩
  rw [className, ne_eq, String.append_eq_empty_iff, not_and]
  exact fun _ => by decide

theorem isSingle_classRest (c : Component) : IsSingle (classRest c) := by
  refine ((isUnmarked_className c).isSingle.append (by decide)).append ?_
  rw [classOpening]
  split <;> decide

/-- A source for Angular names the stylesheet of its component if stylesheets are nested, and no
stylesheet otherwise. -/
theorem styleUrls_source (options : GenerationOptions) (c : Component) :
    (source options c).styleUrls
      = if options.styleFormat = .scss then [styleReference options c] else [] := by
  have front : ∀ l ∈ lines c, IsOther "  styleUrls: ['" l :=
    isOther_of_mem_lines List.mem_cons_self c
  have line : HasLeft "  styleUrls: ['" ("export class " ++ classRest c) :=
    .append (by decide) (isSingle_classRest c)
  have back : ∀ l ∈ ["\x7d)", "export class " ++ classRest c] ++ classBody c,
      IsOther "  styleUrls: ['" l := by
    intro l member
    simp only [List.cons_append, List.nil_append, List.mem_cons] at member
    rcases member with rfl | rfl | body
    · decide
    · exact line.isOther
    · exact isOther_of_mem_classBody List.mem_cons_self c l body
  -- The property stands behind the lines in front of it and before the end of the decorator.
  have whole : lines c ++ ["  " ++ styles options c, "\x7d)"] ++ ["export class " ++ classRest c]
      ++ classBody c = lines c ++ ["  " ++ styles options c]
        ++ (["\x7d)", "export class " ++ classRest c] ++ classBody c) := by
    simp
  rw [GeneratedFile.styleUrls, content_source, whole]
  by_cases nested : options.styleFormat = .scss
  · have named : "  " ++ styles options c
        = "  styleUrls: ['" ++ (styleReference options c ++ "'],") := by
      rw [styles, nested, styleReference, nested, ← String.toList_inj]
      simp
    have single : IsSingle ("  styleUrls: ['" ++ (styleReference options c ++ "'],")) :=
      .append (by decide) ((isSingle_styleReference options c).append (by decide))
    rw [named, if_pos nested]
    exact between_unlines (by decide) (List.forall_mem_append.mpr ⟨front, back⟩) single
      (isTidyLine_endings _ (by decide))
  · have none : "  " ++ styles options c = "  styles: []," := by
      rw [styles]
      have line : "  " ++ "styles: []," = "  styles: []," := by decide
      cases format : options.styleFormat with
      | scss => exact absurd format nested
      | css => exact line
      | tailwind => exact line
    have outside := List.forall_mem_append.mpr ⟨List.forall_mem_append.mpr ⟨front,
      List.forall_mem_singleton.mpr (by decide : IsOther "  styleUrls: ['" "  styles: [],")⟩, back⟩
    rw [none, if_neg nested, between, restsBehind_unlines_eq_nil (by decide) outside]
    rfl

/-- A source for Angular declares the class of its component and no other. -/
theorem classes_source (options : GenerationOptions) (c : Component) :
    (source options c).classes = [className c] := by
  have line : HasLeft "export class " ("  " ++ styles options c) := by
    refine .append (by decide) ?_
    rw [styles]
    split
    · exact .append (.append (by decide) (isSingle_styleReference options c)) (by decide)
    · decide
    · decide
  have pair : "export class " ∈ starts := List.mem_cons_of_mem _ List.mem_cons_self
  have outside : ∀ l ∈ lines c ++ ["  " ++ styles options c, "\x7d)"] ++ classBody c,
      IsOther "export class " l := by
    intro l member
    simp only [List.mem_append, List.mem_cons, List.not_mem_nil, or_false] at member
    rcases member with (front | rfl | rfl) | body
    · exact isOther_of_mem_lines pair c l front
    · exact line.isOther
    · decide
    · exact isOther_of_mem_classBody pair c l body
  have single : IsSingle ("export class " ++ classRest c) :=
    .append (by decide) (isSingle_classRest c)
  have tidy : IsTidyLine ("export class " ++ classRest c).toList := by
    rw [classRest]
    refine isTidyLine_append ?_ _ _
    rw [classOpening]
    split
    · exact ⟨['\x7b'], '\x7d', rfl, by decide⟩
    · exact ⟨[], '\x7b', rfl, by decide⟩
  have blank := (className_shown c).2.1
  rw [GeneratedFile.classes, content_source,
    restsBehind_unlines_singleton (by decide) outside single tidy, List.map_singleton, classRest,
    wordOf_append blank]

/-! ## References in the module -/

theorem isSingle_importReference (c : Component) : IsSingle (importReference c) :=
  .append (.append (.append (by decide) (isUnmarked_pascal c.name).isSingle) (by decide))
    ((isUnmarked_kebab c.name).isSingle.append (by decide))

theorem shown_of_mem_moduleImports (cs : List Component) :
    ∀ i ∈ moduleImports cs, ' ' ∉ i.1.toList ∧ IsSingle i.1 ∧ IsSingle i.2 := by
  refine List.forall_mem_append.mpr ⟨by decide, List.forall_mem_map.mpr fun c _ => ?_⟩
  exact ⟨(className_shown c).2.1, (isUnmarked_className c).isSingle, isSingle_importReference c⟩

theorem isSingle_importRest {cs : List Component} {i : String × String}
    (member : i ∈ moduleImports cs) : IsSingle (importRest i) :=
  have ⟨_, name, file⟩ := shown_of_mem_moduleImports cs i member
  ((name.append (by decide)).append file).append (by decide)

theorem isSingle_declared (cs : List Component) :
    IsSingle (", ".intercalate (cs.map className) ++ "],") := by
  refine IsSingle.append (IsUnmarked.isSingle ?_) (by decide)
  exact IsUnmarked.intercalate (by decide)
    (List.forall_mem_map.mpr fun c _ => isUnmarked_className c)

theorem isOther_classesLine {start field : String} (left : HasLeft start ("  " ++ field ++ ": ["))
    (cs : List Component) : IsOther start (classesLine field cs) :=
  (left.append (isSingle_declared cs)).isOther

/-- Imports are found again behind the first words of their lines. -/
theorem filterMap_importRest {imports : List (String × String)}
    (whole : ∀ i ∈ imports, ' ' ∉ i.1.toList) :
    (imports.map importRest).filterMap importOf? = imports := by
  rw [List.filterMap_map]
  refine (List.filterMap_congr fun i member => ?_).trans List.filterMap_some
  rw [Function.comp_apply, importRest, importOf?_append (whole i member)]

/-- The module imports its own parts and then the classes of all components. -/
theorem imports_moduleSource (cs : List Component) :
    (moduleSource cs).imports = moduleImports cs := by
  have outside : ∀ l ∈ moduleLines cs, IsOther "import \x7b " l := by
    refine List.forall_mem_append.mpr ⟨by split <;> decide, ?_⟩
    simp only [List.forall_mem_cons]
    exact ⟨by decide, by decide, isOther_classesLine (by decide) cs, by decide,
      isOther_classesLine (by decide) cs, by decide, by decide, List.forall_mem_nil _⟩
  have inside : ∀ rest ∈ (moduleImports cs).map importRest,
      IsSingle ("import \x7b " ++ rest) ∧ IsTidyLine ("import \x7b " ++ rest).toList :=
    List.forall_mem_map.mpr fun i member => ⟨.append (by decide) (isSingle_importRest member),
      isTidyLine_append (isTidyLine_endings _ (by decide)) _ _⟩
  have rests : restsBehind "import \x7b " (moduleSource cs).content
      = (moduleImports cs).map importRest := by
    have found : restsBehind "import \x7b " (unlines ([] ++ ((moduleImports cs).map importRest).map
        ("import \x7b " ++ ·) ++ moduleLines cs)) = (moduleImports cs).map importRest :=
      restsBehind_unlines (by decide) outside inside
    rwa [List.nil_append, ← content_moduleSource] at found
  rw [GeneratedFile.imports, rests]
  exact filterMap_importRest fun i member => (shown_of_mem_moduleImports cs i member).1

theorem moduleLines_split {field : String} (known : field ∈ ["declarations", "exports"])
    (cs : List Component) :
    ∃ before after, moduleLines cs = before ++ [classesLine field cs] ++ after
      ∧ ∀ l ∈ before ++ after, IsOther ("  " ++ field ++ ": [") l := by
  -- The two lines differ in their fields, so that each is no other line for its own field.
  rcases List.mem_pair.mp known with rfl | rfl
  · refine ⟨(if cs.isEmpty then [""] else []) ++ ["", "@NgModule(\x7b"],
      ["  imports: [CommonModule],", classesLine "exports" cs, "\x7d)",
        "export class ComponentsModule \x7b\x7d"], by simp [moduleLines], ?_⟩
    refine List.forall_mem_append.mpr
      ⟨List.forall_mem_append.mpr ⟨by split <;> decide, by decide⟩, ?_⟩
    simp only [List.forall_mem_cons]
    exact ⟨by decide, isOther_classesLine (by decide) cs, by decide, by decide,
      List.forall_mem_nil _⟩
  · refine ⟨(if cs.isEmpty then [""] else []) ++ ["", "@NgModule(\x7b",
        classesLine "declarations" cs, "  imports: [CommonModule],"],
      ["\x7d)", "export class ComponentsModule \x7b\x7d"], by simp [moduleLines], ?_⟩
    refine List.forall_mem_append.mpr
      ⟨List.forall_mem_append.mpr ⟨by split <;> decide, ?_⟩, by decide⟩
    simp only [List.forall_mem_cons]
    exact ⟨by decide, by decide, isOther_classesLine (by decide) cs, by decide,
      List.forall_mem_nil _⟩

/-- The module declares and exports the classes of all components. -/
theorem listed_moduleSource {field : String} (known : field ∈ ["declarations", "exports"])
    (cs : List Component) : (moduleSource cs).listed field = [cs.map className] := by
  have start : "  " ++ field ++ ": [" ≠ "" ∧ HasLeft ("  " ++ field ++ ": [") "import \x7b "
      ∧ IsSingle ("  " ++ field ++ ": [") := by
    rcases List.mem_pair.mp known with rfl | rfl <;> decide
  obtain ⟨given, left, single⟩ := start
  have imports : ∀ l ∈ ((moduleImports cs).map importRest).map ("import \x7b " ++ ·),
      IsOther ("  " ++ field ++ ": [") l :=
    List.forall_mem_map.mpr (List.forall_mem_map.mpr fun i member =>
      (left.append (isSingle_importRest member)).isOther)
  obtain ⟨before, after, lines, others⟩ := moduleLines_split known cs
  have outside : ∀ l ∈ ((moduleImports cs).map importRest).map ("import \x7b " ++ ·)
      ++ before ++ after, IsOther ("  " ++ field ++ ": [") l := by
    rw [List.append_assoc]
    exact List.forall_mem_append.mpr ⟨imports, others⟩
  have found := between_unlines given outside (single.append (isSingle_declared cs))
    (isTidyLine_endings _ (by decide))
  have content : (moduleSource cs).content
      = unlines (((moduleImports cs).map importRest).map ("import \x7b " ++ ·) ++ before
        ++ [classesLine field cs] ++ after) := by
    rw [content_moduleSource, lines]
    simp only [List.append_assoc]
  rw [GeneratedFile.listed, content, classesLine, found, List.map_singleton,
    itemsOf_intercalate (List.forall_mem_map.mpr fun c _ => className_shown c)]

end Angular

end Generator

end DesignTokens
