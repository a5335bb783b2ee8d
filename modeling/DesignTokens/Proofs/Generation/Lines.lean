import DesignTokens.Proofs.Generation.Paths
import DesignTokens.Proofs.Stylesheet.Utilities
import DesignTokens.Proofs.Text.Reading

/-!
# Lines of generated sources

The sources of components and the module of Angular are written line by line.
Whatever a component is called and however it is laid out, no line falls apart
into two.

Key definitions: `Generator.Vue.lines`, `Generator.Angular.lines`,
`Generator.Angular.moduleLines`.
-/

namespace DesignTokens

open Naming Text

theorem IsUnmarked.isSingle {text : String} (unmarked : IsUnmarked text) : IsSingle text :=
  unmarked.not_mem rfl

theorem isUnmarked_kebab (name : String) : IsUnmarked (kebab name) := by
  have chars : ∀ c ∈ (kebab name).toList, decide (IsIdentifierChar c) = true := fun c member =>
    decide_eq_true (isIdentifierChar_of_mem_kebab name c member)
  exact isUnmarked_of_forall chars (by decide)

theorem isUnmarked_pascal (name : String) : IsUnmarked (pascal name) := by
  have chars : ∀ c ∈ (pascal name).toList, decide (IsIdentifierChar c) = true := fun c member =>
    decide_eq_true (isIdentifierChar_of_mem_pascal name c member)
  exact isUnmarked_of_forall chars (by decide)

namespace Layout

theorem isUnmarked_stepClass {name : String} (unmarked : IsUnmarked name) (x : Float) :
    IsUnmarked (stepClass name x) :=
  (unmarked.append (by decide)).append (Css.isNumeral_number (x / 4.0)).isUnmarked

/-- The classes of a layout have no marks, nor do those of its parts. -/
theorem isUnmarked_classes {scheme : UtilityScheme}
    (known : scheme = .tailwind ∨ scheme = .bootstrap) (l : Layout) :
    IsUnmarked (l.classes scheme) := by
  have names : ∀ name ∈ [scheme.row, scheme.column, scheme.grid, scheme.paddingTop,
      scheme.paddingRight, scheme.paddingBottom, scheme.paddingLeft], IsUnmarked name := by
    rcases known with rfl | rfl <;> decide
  simp only [List.forall_mem_cons] at names
  obtain ⟨row, column, grid, top, right, bottom, left, _⟩ := names
  have mode : ∀ name ∈ modeClasses scheme l.mode, IsUnmarked name := by
    cases l.mode with
    | horizontal => exact List.forall_mem_singleton.mpr row
    | vertical => exact List.forall_mem_singleton.mpr column
    | grid => exact List.forall_mem_singleton.mpr grid
    | none => exact List.forall_mem_nil _
    | other => exact List.forall_mem_nil _
  have padding (p : Padding) : ∀ name ∈ paddingClasses scheme p, IsUnmarked name := by
    intro name member
    rw [paddingClasses] at member
    split at member
    · rw [List.mem_singleton.mp member]
      exact isUnmarked_stepClass (by decide) _
    · simp only [List.mem_cons, List.not_mem_nil, or_false] at member
      rcases member with rfl | rfl | rfl | rfl
      · exact isUnmarked_stepClass top _
      · exact isUnmarked_stepClass right _
      · exact isUnmarked_stepClass bottom _
      · exact isUnmarked_stepClass left _
  have gap (x : Float) : ∀ name ∈ gapClasses x, IsUnmarked name := by
    rw [gapClasses]
    split
    · exact List.forall_mem_nil _
    · exact List.forall_mem_singleton.mpr (isUnmarked_stepClass (by decide) _)
  refine IsUnmarked.intercalate (by decide) ?_
  rw [classList]
  refine List.forall_mem_append.mpr ⟨List.forall_mem_append.mpr ⟨mode, ?_⟩, ?_⟩
  · cases l.padding with
    | none => exact List.forall_mem_nil _
    | some p => exact padding p
  · cases l.itemSpacing with
    | none => exact List.forall_mem_nil _
    | some x => exact gap x

end Layout

namespace Generator

theorem isUnmarked_quotedClasses (c : Component) : IsUnmarked (quotedClasses .tailwind c) := by
  have quoted {text : String} (unmarked : IsUnmarked text) : IsUnmarked (singleQuoted text) :=
    IsUnmarked.append (IsUnmarked.append (by decide) unmarked) (by decide)
  refine IsUnmarked.intercalate (by decide) ?_
  refine List.forall_mem_append.mpr
    ⟨List.forall_mem_singleton.mpr (quoted (isUnmarked_kebab c.name)), ?_⟩
  split
  · exact List.forall_mem_nil _
  · exact List.forall_mem_singleton.mpr (quoted (Layout.isUnmarked_classes (.inl rfl) _))

theorem Angular.isUnmarked_classNames (c : Component) : IsUnmarked (classNames c) := by
  refine (isUnmarked_kebab c.name).append ?_
  split
  · decide
  · exact IsUnmarked.append (by decide) (Layout.isUnmarked_classes (.inr rfl) _)

/-- The stylesheet of a component as its source refers to it. -/
def styleReference (options : GenerationOptions) (c : Component) : String :=
  styleImport (pascal c.name) options.styleFormat.extension

theorem isSingle_styleReference (options : GenerationOptions) (c : Component) :
    IsSingle (styleReference options c) := by
  have name : IsSingle ("../../styles/components/" ++ pascal c.name ++ ".") :=
    .append (.append (by decide) (isUnmarked_pascal c.name).isSingle) (by decide)
  refine name.append ?_
  cases options.styleFormat <;> decide

/-! ## Sources for Vue -/

namespace Vue

/-- The lines of the script of a component. -/
def scriptLines (options : GenerationOptions) (c : Component) : List String :=
  (if options.typescript then
      ["import \x7b defineComponent \x7d from 'vue';", "", "export default defineComponent(\x7b"]
    else ["export default \x7b"])
    ++ ["  name: '" ++ pascal c.name ++ "',"]
    ++ (if hasText c then ["  props: \x7b", "    text: \x7b type: String \x7d,", "  \x7d,"] else [])
    ++ [if options.typescript then "\x7d);" else "\x7d;"]

/-- The lines of a source in front of the line that imports the stylesheet. -/
def lines (options : GenerationOptions) (c : Component) : List String :=
  ["<template>",
    "  <div :class=\"[" ++ quotedClasses .tailwind c ++ "]\" v-bind=\"$attrs\">",
    "    " ++ (if hasText c then "<slot>\x7b\x7b text \x7d\x7d</slot>" else "<slot></slot>"),
    "  </div>", "</template>", "",
    "<script" ++ (if options.typescript then " lang=\"ts\"" else "") ++ ">"]
    ++ scriptLines options c
    ++ ["</script>", "",
      "<style" ++ (if options.styleFormat = .scss then " lang=\"scss\"" else "") ++ " scoped>"]

theorem content_source (options : GenerationOptions) (c : Component) :
    (source options c).content = unlines (lines options c
      ++ ["@import '" ++ (styleReference options c ++ "';")] ++ ["</style>"]) := by
  -- The script is filled in as one text, without the line feed at its end.
  have given : scriptLines options c ≠ [] := by simp [scriptLines]
  have script : unlines (scriptLines options c)
      = script options.typescript (pascal c.name) (hasText c) ++ "\n" := unlines_of_ne_nil given
  rw [unlines_append, unlines_append, lines, unlines_append, unlines_append, script,
    ← String.toList_inj]
  simp [source, Template.filled, template, data, Piece.filled, place, Reference.ofField,
    List.lookup_cons, unlines, styleReference]

theorem isOther_of_mem_scriptLines (options : GenerationOptions) (c : Component) :
    ∀ l ∈ scriptLines options c, IsOther "@import '" l := by
  -- What a component is called comes behind a start that is different already.
  have name : HasLeft "@import '" ("  name: '" ++ pascal c.name ++ "',") :=
    .append (.append (by decide) (isUnmarked_pascal c.name).isSingle) (by decide)
  intro l member
  rw [scriptLines, List.mem_append, List.mem_append, List.mem_append] at member
  rcases member with ((opening | named) | props) | closing
  · revert l
    split <;> decide
  · rw [List.mem_singleton.mp named]
    exact name.isOther
  · revert l
    split <;> decide
  · rw [List.mem_singleton.mp closing]
    split <;> decide

theorem isOther_of_mem_lines (options : GenerationOptions) (c : Component) :
    ∀ l ∈ lines options c, IsOther "@import '" l := by
  have classes : HasLeft "@import '"
      ("  <div :class=\"[" ++ quotedClasses .tailwind c ++ "]\" v-bind=\"$attrs\">") :=
    .append (.append (by decide) (isUnmarked_quotedClasses c).isSingle) (by decide)
  intro l member
  rw [lines, List.mem_append, List.mem_append] at member
  rcases member with (markup | script) | style
  · simp only [List.mem_cons, List.not_mem_nil, or_false] at markup
    rcases markup with rfl | rfl | rfl | rfl | rfl | rfl | rfl
    · decide
    · exact classes.isOther
    · split <;> decide
    · decide
    · decide
    · decide
    · split <;> decide
  · exact isOther_of_mem_scriptLines options c l script
  · simp only [List.mem_cons, List.not_mem_nil, or_false] at style
    rcases style with rfl | rfl | rfl
    · decide
    · decide
    · split <;> decide

end Vue

/-! ## Sources for Angular -/

namespace Angular

/-- The lines of the declaration of a class behind the first one. -/
def classBody (c : Component) : List String :=
  match inputs c with
  | [] => []
  | given => given.map ("  " ++ ·) ++ ["\x7d"]

/-- What stands behind the name of a class. -/
def classOpening (c : Component) : String :=
  match inputs c with
  | [] => "\x7b\x7d"
  | _ => "\x7b"

/-- The declaration of a class as it stands behind the first words of its line. -/
def classRest (c : Component) : String := className c ++ " " ++ classOpening c

/-- The lines of a source in front of the property for the stylesheet. -/
def lines (c : Component) : List String :=
  ["import \x7b " ++ (if (inputs c).isEmpty then "Component" else "Component, Input")
      ++ " \x7d from '@angular/core';", "",
    "@Component(\x7b", "  selector: '" ++ selector "app" c.name ++ "',", "  template: `",
    "    <div class=\"" ++ classNames c ++ "\">", "      <ng-content></ng-content>", "    </div>",
    "  `,"]

theorem unlines_classBody (c : Component) :
    unlines (("export class " ++ classRest c) :: classBody c)
      = classDeclaration c ++ "\n" := by
  rw [classDeclaration, classRest, classOpening, classBody]
  cases inputs c with
  | nil =>
    rw [unlines_of_ne_nil (List.cons_ne_nil _ _), String.intercalate_singleton, ← String.toList_inj]
    simp
  | cons input others =>
    rw [unlines_of_ne_nil (List.cons_ne_nil _ _)]
    refine congrArg (fun lines => "\n".intercalate lines ++ "\n") ?_
    rw [← String.append_assoc, ← String.append_assoc, String.append_assoc]
    rfl

theorem content_source (options : GenerationOptions) (c : Component) :
    (source options c).content = unlines (lines c ++ ["  " ++ styles options c, "\x7d)"]
      ++ ["export class " ++ classRest c] ++ classBody c) := by
  rw [List.append_assoc, List.singleton_append, unlines_append, unlines_append, unlines_classBody,
    ← String.toList_inj]
  simp [source, Template.filled, template, data, Piece.filled, place, Reference.ofField,
    List.lookup_cons, unlines, lines]

/-- The starts of the lines that tell of the stylesheet and of the class. -/
abbrev starts : List String := ["  styleUrls: ['", "export class "]

theorem isOther_of_mem_lines {start : String} (known : start ∈ starts) (c : Component) :
    ∀ l ∈ lines c, IsOther start l := by
  have selector : HasLeft start ("  selector: '" ++ selector "app" c.name ++ "',") := by
    have name : IsSingle (Naming.selector "app" c.name) :=
      .append (.append (by decide) (by decide)) (isUnmarked_kebab c.name).isSingle
    refine .append (.append ?_ name) (by decide)
    rcases List.mem_pair.mp known with rfl | rfl <;> decide
  have classes : HasLeft start ("    <div class=\"" ++ classNames c ++ "\">") := by
    refine .append (.append ?_ (isUnmarked_classNames c).isSingle) (by decide)
    rcases List.mem_pair.mp known with rfl | rfl <;> decide
  have core : IsOther start ("import \x7b " ++ (if (inputs c).isEmpty then "Component" else
      "Component, Input") ++ " \x7d from '@angular/core';") := by
    split <;> rcases List.mem_pair.mp known with rfl | rfl <;> decide
  have fixed : ∀ l ∈ ["", "@Component(\x7b", "  template: `", "      <ng-content></ng-content>",
      "    </div>", "  `,"], IsOther start l := by
    rcases List.mem_pair.mp known with rfl | rfl <;> decide
  intro l member
  simp only [lines, List.mem_cons, List.not_mem_nil, or_false] at member
  rcases member with rfl | rfl | rfl | rfl | rfl | rfl | rfl | rfl | rfl
  case inl => exact core
  case inr.inr.inr.inl => exact selector.isOther
  case inr.inr.inr.inr.inr.inl => exact classes.isOther
  all_goals exact fixed _ (by decide)

theorem isOther_of_mem_classBody {start : String} (known : start ∈ starts) (c : Component) :
    ∀ l ∈ classBody c, IsOther start l := by
  have given : ∀ input ∈ inputs c,
      input ∈ ["@Input() text?: string;", "@Input() spacing?: number;"] := by
    refine List.forall_mem_append.mpr ⟨?_, ?_⟩
    · split <;> decide
    · split <;> decide
  have fixed : ∀ input ∈ ["@Input() text?: string;", "@Input() spacing?: number;"],
      IsOther start ("  " ++ input) ∧ IsOther start "\x7d" := by
    rcases List.mem_pair.mp known with rfl | rfl <;> decide
  rw [classBody]
  split
  · exact List.forall_mem_nil _
  · refine List.forall_mem_append.mpr ⟨List.forall_mem_map.mpr fun input member => ?_,
      List.forall_mem_singleton.mpr ?_⟩
    · exact (fixed input (given input member)).1
    · exact (fixed _ List.mem_cons_self).2

/-! ## The module of Angular -/

/-- The source of a component as the module refers to it. -/
def importReference (c : Component) : String :=
  "./components/" ++ pascal c.name ++ "/" ++ fileStem c

/-- The names that the module imports, with the files that they come from. -/
def moduleImports (cs : List Component) : List (String × String) :=
  [("NgModule", "@angular/core"), ("CommonModule", "@angular/common")]
    ++ cs.map (fun c => (className c, importReference c))

/-- An import as it stands behind the first word of its line. -/
def importRest (i : String × String) : String := i.1 ++ " \x7d from '" ++ i.2 ++ "';"

/-- The line of the module that gives all classes for a field. -/
def classesLine (field : String) (cs : List Component) : String :=
  "  " ++ field ++ ": [" ++ (", ".intercalate (cs.map className) ++ "],")

/-- The lines of the module behind its imports.  Where there is no component, there is one more. -/
def moduleLines (cs : List Component) : List String :=
  (if cs.isEmpty then [""] else [])
    ++ ["", "@NgModule(\x7b", classesLine "declarations" cs, "  imports: [CommonModule],",
      classesLine "exports" cs, "\x7d)", "export class ComponentsModule \x7b\x7d"]

theorem map_importRest (cs : List Component) :
    ((moduleImports cs).map importRest).map ("import \x7b " ++ ·)
      = ["import \x7b NgModule \x7d from '@angular/core';",
        "import \x7b CommonModule \x7d from '@angular/common';"] ++ cs.map importLine := by
  have each (c : Component) : "import \x7b " ++ importRest (className c, importReference c)
      = importLine c := by
    rw [← String.toList_inj]
    simp [importRest, importReference, importLine]
  rw [moduleImports, List.map_append, List.map_append, List.map_map, List.map_map, List.map_map]
  exact congrArg₂ (· ++ ·) (by decide) (List.map_congr_left fun c _ => each c)

theorem content_moduleSource (cs : List Component) :
    (moduleSource cs).content = unlines
      (((moduleImports cs).map importRest).map ("import \x7b " ++ ·) ++ moduleLines cs) := by
  -- Where nothing is filled in for the imports, the line feed behind the place is a line.
  have lines : unlines (cs.map importLine ++ (if cs.isEmpty then [""] else []))
      = "\n".intercalate (cs.map importLine) ++ "\n" := by
    cases cs with
    | nil => decide
    | cons c cs =>
      rw [List.isEmpty_cons, if_neg Bool.false_ne_true, List.append_nil]
      exact unlines_of_ne_nil (List.cons_ne_nil _ _)
  rw [map_importRest, moduleLines, List.append_assoc, ← List.append_assoc (cs.map importLine),
    unlines_append, unlines_append, lines, ← String.toList_inj]
  simp [moduleSource, Template.filled, moduleTemplate, moduleData, Piece.filled, place,
    Reference.ofField, List.lookup_cons, unlines, classesLine]

end Angular

end Generator

end DesignTokens
