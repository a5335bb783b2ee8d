import DesignTokens.Proofs.Generation.Files
import DesignTokens.Proofs.Naming.Alphabet

/-!
# What names leave as it is

What is left of a generated file without letters, marks, digits, hyphens and
underscores is its structure.  The name of a component goes into its files
through slugs and identifiers only, which leave nothing behind, so the structure
does not depend on the name.
-/

namespace DesignTokens

open Naming

/-! ## Structure of texts -/

/-- What is left of a text without the characters of names. -/
def structureOf (text : String) : List Char := text.toList.filter (fun c => !isNameChar c)

/-- Whether two texts have the same structure. -/
def SameStructure (s t : String) : Prop := structureOf s = structureOf t

example : structureOf "app-box_1;" = [';'] := by decide

theorem structureOf_append (s t : String) :
    structureOf (s ++ t) = structureOf s ++ structureOf t := by
  rw [structureOf, String.toList_append, List.filter_append]
  rfl

namespace SameStructure

variable {s s' t t' : String}

theorem refl (s : String) : SameStructure s s := rfl

theorem append (first : SameStructure s s') (second : SameStructure t t') :
    SameStructure (s ++ t) (s' ++ t') := by
  rw [SameStructure, structureOf_append, structureOf_append, first, second]

theorem ite {p : Prop} [Decidable p] (yes : SameStructure s s') (no : SameStructure t t') :
    SameStructure (if p then s else t) (if p then s' else t') := by
  split
  · exact yes
  · exact no

theorem of_names (named : ∀ c ∈ s.toList, isNameChar c = true)
    (named' : ∀ c ∈ t.toList, isNameChar c = true) : SameStructure s t := by
  have nothing : ∀ {text : String}, (∀ c ∈ text.toList, isNameChar c = true) →
      structureOf text = [] := by
    intro text named
    apply List.filter_eq_nil_iff.mpr
    intro c member
    rw [named c member]
    simp
  rw [SameStructure, nothing named, nothing named']

theorem pascal (name name' : String) : SameStructure (pascal name) (Naming.pascal name') :=
  .of_names isNameChar_of_mem_pascal isNameChar_of_mem_pascal

theorem kebab (name name' : String) : SameStructure (kebab name) (Naming.kebab name') :=
  .of_names isNameChar_of_mem_kebab isNameChar_of_mem_kebab

theorem join {ss ts : List String} (each : List.Forall₂ SameStructure ss ts) :
    SameStructure (String.join ss) (String.join ts) := by
  induction each with
  | nil => exact .refl _
  | cons first _ ih =>
    rw [String.join_cons, String.join_cons]
    exact first.append ih

theorem intercalate (separator : String) {ss ts : List String}
    (each : List.Forall₂ SameStructure ss ts) :
    SameStructure (separator.intercalate ss) (separator.intercalate ts) := by
  induction each with
  | nil => exact .refl _
  | cons first rest ih =>
    cases rest with
    | nil =>
      rw [String.intercalate_singleton, String.intercalate_singleton]
      exact first
    | cons second others =>
      rw [String.intercalate_cons_cons, String.intercalate_cons_cons]
      exact (first.append (.refl separator)).append ih

theorem unlines {ss ts : List String} (each : List.Forall₂ SameStructure ss ts) :
    SameStructure (Text.unlines ss) (Text.unlines ts) := by
  apply SameStructure.join
  rw [List.forall₂_map_left_iff, List.forall₂_map_right_iff]
  exact each.imp fun _ _ same => same.append (.refl _)

theorem each_refl (ss : List String) : List.Forall₂ SameStructure ss ss :=
  List.forall₂_same.mpr fun s _ => .refl s

end SameStructure

/-! ## Templates -/

/-- Whether two lists of fields have the same names, and texts of the same structure. -/
def SameFields (data data' : List (String × String)) : Prop :=
  List.Forall₂ (fun d e => d.1 = e.1 ∧ SameStructure d.2 e.2) data data'

theorem sameFields_cons_iff {name text text' : String} {data data' : List (String × String)} :
    SameFields ((name, text) :: data) ((name, text') :: data') ↔
      SameStructure text text' ∧ SameFields data data' := by
  rw [SameFields, List.forall₂_cons, eq_self, true_and, SameFields]

theorem sameStructure_lookup {data data' : List (String × String)} (fields : SameFields data data')
    (name : String) :
    SameStructure ((data.lookup name).getD "") ((data'.lookup name).getD "") := by
  induction fields with
  | nil => exact .refl _
  | @cons d e ds es first _ ih =>
    obtain ⟨same, text⟩ := first
    rw [List.lookup_cons, List.lookup_cons, ← same]
    split
    · exact text
    · exact ih

/-- A template that is filled with texts of the same structure has one structure. -/
theorem sameStructure_filled (t : Template) {data data' : List (String × String)}
    (fields : SameFields data data') : SameStructure (t.filled data) (t.filled data') := by
  apply SameStructure.join
  rw [List.forall₂_map_left_iff, List.forall₂_map_right_iff]
  refine List.forall₂_same.mpr fun piece _ => ?_
  cases piece with
  | text shown => exact .refl shown
  | field target => exact sameStructure_lookup fields target.written
  | call helper arguments named => exact .refl _

/-! ## Source files -/

/-- A component under another name. -/
def Component.renamed (c : Component) (name : String) : Component := { c with name := name }

variable (options : GenerationOptions) (c : Component) (name : String)

namespace Generator

open SameStructure

theorem sameStructure_quotedClasses (scheme : UtilityScheme) :
    SameStructure (quotedClasses scheme c) (quotedClasses scheme (c.renamed name)) := by
  apply SameStructure.intercalate
  refine .cons ?_ (each_refl _)
  exact ((SameStructure.refl "'").append (SameStructure.kebab c.name name)).append (.refl "'")

theorem React.sameStructure_propsInterface (component component' : String)
    (same : SameStructure component component') (text : Bool) :
    SameStructure (propsInterface component text) (propsInterface component' text) := by
  apply SameStructure.intercalate
  refine .cons (.refl _) (.cons ?_ (each_refl _))
  exact ((SameStructure.refl _).append same).append (.refl _)

theorem React.sameStructure_source :
    SameStructure (React.source options c).content
      (React.source options (c.renamed name)).content := by
  have component := SameStructure.pascal c.name name
  have interface := React.sameStructure_propsInterface _ _ component (hasText c)
  have annotation := ((SameStructure.refl ": React.FC<").append component).append (.refl "Props>")
  have classes := sameStructure_quotedClasses c name .tailwind
  apply sameStructure_filled
  simp only [React.data, sameFields_cons_iff]
  refine ⟨component, .ite interface (.refl ""), .ite annotation (.refl ""), ?_, classes, ?_, .nil⟩
  · exact .refl (if hasText c then _ else _)
  · exact .refl (if hasText c then _ else _)

theorem sameStructure_styleImport {component component' : String}
    (same : SameStructure component component') (extension : String) :
    SameStructure (styleImport component extension) (styleImport component' extension) :=
  (((SameStructure.refl _).append same).append (.refl ".")).append (.refl extension)

theorem Vue.sameStructure_script (typescript : Bool) {component component' : String}
    (same : SameStructure component component') (text : Bool) :
    SameStructure (script typescript component text) (script typescript component' text) := by
  apply SameStructure.intercalate
  have line := ((SameStructure.refl "  name: '").append same).append (.refl "',")
  -- Only one line has the name; those before and after it are the same.
  apply List.rel_append
  · apply List.rel_append
    · exact List.rel_append (each_refl _) (.cons line .nil)
    · exact each_refl _
  · exact each_refl _

theorem Vue.sameStructure_source :
    SameStructure (Vue.source options c).content (Vue.source options (c.renamed name)).content := by
  have component := SameStructure.pascal c.name name
  have classes := sameStructure_quotedClasses c name .tailwind
  have script := Vue.sameStructure_script options.typescript component (hasText c)
  have file := sameStructure_styleImport component options.styleFormat.extension
  apply sameStructure_filled
  simp only [Vue.data, sameFields_cons_iff]
  refine ⟨classes, ?_, .refl _, script, .refl _, file, .nil⟩
  exact .refl (if hasText c then _ else _)

namespace Angular

theorem sameStructure_className (c d : Component) : SameStructure (className c) (className d) :=
  (SameStructure.pascal c.name d.name).append (.refl "Component")

theorem sameStructure_fileStem (c d : Component) : SameStructure (fileStem c) (fileStem d) :=
  (SameStructure.kebab c.name d.name).append (.refl ".component")

theorem sameStructure_classDeclaration :
    SameStructure (classDeclaration c) (classDeclaration (c.renamed name)) := by
  have start :=
    (SameStructure.refl "export class ").append (sameStructure_className c (c.renamed name))
  have same : inputs (c.renamed name) = inputs c := rfl
  rw [classDeclaration, classDeclaration, same]
  split
  · exact start.append (.refl " \x7b\x7d")
  · apply SameStructure.intercalate
    exact .cons (start.append (.refl " \x7b")) (each_refl _)

theorem sameStructure_styles :
    SameStructure (styles options c) (styles options (c.renamed name)) := by
  rw [styles, styles]
  split
  · have file := sameStructure_styleImport (SameStructure.pascal c.name name)
      options.styleFormat.extension
    exact ((SameStructure.refl "styleUrls: ['").append file).append (.refl "'],")
  · exact .refl _
  · exact .refl _

theorem sameStructure_source :
    SameStructure (source options c).content (source options (c.renamed name)).content := by
  have tag := SameStructure.kebab c.name name
  have selector := (SameStructure.refl "app-").append tag
  have sheet := sameStructure_styles options c name
  have declaration := sameStructure_classDeclaration c name
  apply sameStructure_filled
  simp only [data, sameFields_cons_iff]
  refine ⟨?_, selector, tag.append (.refl _), sheet, declaration, .nil⟩
  exact .refl (if (inputs c).isEmpty then _ else _)

theorem sameStructure_importLine (c d : Component) :
    SameStructure (importLine c) (importLine d) := by
  have name := (SameStructure.refl "import \x7b ").append (sameStructure_className c d)
  have folder := (name.append (.refl " \x7d from './components/")).append
    (SameStructure.pascal c.name d.name)
  exact ((folder.append (.refl "/")).append (sameStructure_fileStem c d)).append (.refl "';")

end Angular

end Generator

/-! ## Lists of components -/

theorem forall₂_map_of_length {cs ds : List Component} (long : cs.length = ds.length)
    {f : Component → String} (same : ∀ c d, SameStructure (f c) (f d)) :
    List.Forall₂ SameStructure (cs.map f) (ds.map f) := by
  rw [List.forall₂_map_left_iff, List.forall₂_map_right_iff, List.forall₂_iff_zip]
  exact ⟨long, fun _ => same _ _⟩

theorem Generator.Angular.sameStructure_moduleSource {cs ds : List Component}
    (long : cs.length = ds.length) :
    SameStructure (moduleSource cs).content (moduleSource ds).content := by
  have lines := forall₂_map_of_length long sameStructure_importLine
  have classes := forall₂_map_of_length long sameStructure_className
  apply sameStructure_filled
  simp only [moduleData, sameFields_cons_iff]
  exact ⟨.intercalate "\n" lines, .intercalate ", " classes, .refl _, .nil⟩

theorem sameStructure_indexFile {cs ds : List Component} (long : cs.length = ds.length) :
    SameStructure (indexFile options cs).content (indexFile options ds).content := by
  apply SameStructure.unlines
  apply forall₂_map_of_length long
  intro c d
  have component := SameStructure.pascal c.name d.name
  have start := (SameStructure.refl "export \x7b ").append component
  exact ((start.append (.refl " \x7d from './components/")).append component).append (.refl "';")

/-! ## Stylesheets -/

theorem sameStructure_componentText (format : StyleFormat) :
    SameStructure (format.componentText c) (format.componentText (c.renamed name)) := by
  have selector := (SameStructure.refl ".").append (SameStructure.kebab c.name name)
  have opening := selector.append (.refl " \x7b")
  cases format with
  | css => exact .unlines (.cons opening (SameStructure.each_refl _))
  | scss => exact .unlines (.cons opening (SameStructure.each_refl _))
  | tailwind => exact .unlines (.cons opening (SameStructure.each_refl _))

/-! ## Generated files -/

/-- No name of a component alters the structure of a generated file: not of its source, not of
its stylesheet, and not of the file that brings the components together. -/
theorem names_keep_structure :
    (∀ (framework : Framework) (options : GenerationOptions) (c : Component) (name : String),
      ∃ generator f g, framework.factory options = .ok generator ∧
        generator.component c = .ok f ∧ generator.component (c.renamed name) = .ok g ∧
        SameStructure f.content g.content) ∧
    (∀ (format : StyleFormat) (c : Component) (name : String),
      SameStructure (format.componentFile c).content
        (format.componentFile (c.renamed name)).content) ∧
    ∀ (options : GenerationOptions) (cs ds : List Component), cs.length = ds.length →
      (∃ generator f g, Framework.angular.factory options = .ok generator ∧
        generator.moduleFile cs = .ok (some f) ∧ generator.moduleFile ds = .ok (some g) ∧
        SameStructure f.content g.content) ∧
      SameStructure (indexFile options cs).content (indexFile options ds).content := by
  refine ⟨fun framework options c name => ?_, fun format c name => ?_,
    fun options cs ds long => ⟨?_, sameStructure_indexFile options long⟩⟩
  · refine ⟨_, _, _, framework.factory_eq options, framework.component_generator options c,
      framework.component_generator options (c.renamed name), ?_⟩
    cases framework with
    | react => exact Generator.React.sameStructure_source options c name
    | vue => exact Generator.Vue.sameStructure_source options c name
    | angular => exact Generator.Angular.sameStructure_source options c name
  · exact sameStructure_componentText c name format
  · exact ⟨_, _, _, Framework.angular.factory_eq options, Generator.Angular.moduleFile_eq cs,
      Generator.Angular.moduleFile_eq ds, Generator.Angular.sameStructure_moduleSource long⟩

/-- A name with signs of all generated languages. -/
def hostileName : String := "\x7b\x7bx\x7d\x7d`';\n\"</script>"

theorem names_keep_structure_hostileName :
    (∃ generator f g, Framework.angular.factory .standard = .ok generator ∧
      generator.moduleFile [.bare hostileName] = .ok (some f) ∧
      generator.moduleFile [.bare "Card"] = .ok (some g) ∧
      SameStructure f.content g.content) ∧
    SameStructure (indexFile .standard [.bare hostileName]).content
      (indexFile .standard [.bare "Card"]).content :=
  names_keep_structure.2.2 .standard [.bare hostileName] [.bare "Card"] rfl

end DesignTokens
