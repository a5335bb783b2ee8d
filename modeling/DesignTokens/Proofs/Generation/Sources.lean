import DesignTokens.Proofs.Generation.Templates

/-!
# Source files of components

The templates of the generators have no other places than those that they are
filled with, so that every component has its source file, and every list of
components its module.
-/

namespace DesignTokens

/-! ## Filling templates -/

/-- Whether a piece is text or a place with one of the names. -/
def Piece.isFilledBy (names : List String) : Piece → Bool
  | .text _ => true
  | .field target =>
    target == .ofField target.written && !isHelperName target.written
      && names.contains target.written
  | .call _ _ _ => false

/-- What stands for a piece in a template that is filled with fields. -/
def Piece.filled (data : List (String × String)) : Piece → String
  | .text shown => shown
  | .field target => (data.lookup target.written).getD ""
  | .call _ _ _ => ""

/-- The text of a template that is filled with fields. -/
def Template.filled (t : Template) (data : List (String × String)) : String :=
  String.join (t.pieces.map (Piece.filled data))

/-- The document that a template is filled from. -/
def Generator.document (data : List (String × String)) : Json :=
  .obj (data.map (fun d => (d.1, .str d.2)))

theorem Generator.get?_document (data : List (String × String)) (name : String) :
    Json.get? (data.map (fun d => (d.1, Json.str d.2))) name = (data.lookup name).map .str := by
  induction data with
  | nil => rfl
  | cons d ds ih =>
    rw [Json.get?] at ih
    rw [Json.get?, List.map_cons, List.lookup_cons, List.lookup_cons, ih]
    split <;> rfl

theorem Reference.find_ofField {fields : List (String × Json)} {name : String} {value : Json}
    (found : Json.get? fields name = some value) :
    (Reference.ofField name).find (.obj fields) = .ok (some value) := by
  simp [find, ofField, Json.follow, Json.step, found]

theorem Piece.render_eq {data : List (String × String)} {p : Piece}
    (filled : p.isFilledBy (data.map Prod.fst) = true) :
    p.render (Generator.document data) = .ok (p.filled data) := by
  cases p with
  | text shown => rfl
  | field target =>
    simp only [isFilledBy, Bool.and_eq_true, beq_iff_eq, Bool.not_eq_true', List.contains_iff_mem,
      List.mem_map] at filled
    obtain ⟨⟨own, free⟩, d, member, name⟩ := filled
    obtain ⟨value, found⟩ : ∃ value, data.lookup target.written = some value := by
      rw [← Option.isSome_iff_exists, List.lookup_isSome_iff]
      exact ⟨d, member, by simp [name]⟩
    have step : target.find (Generator.document data) = .ok (some (.str value)) := by
      rw [own]
      exact Reference.find_ofField (by rw [Generator.get?_document, found]; rfl)
    simp only [render, free, step, Piece.filled, found]
    rfl
  | call helper arguments named => cases filled

/-- A template whose places are all filled has a text. -/
theorem Generator.fill_eq {library : TemplateLibrary} {name : String} {t : Template}
    {data : List (String × String)} (found : library.get? name = some t)
    (filled : t.pieces.all (Piece.isFilledBy (data.map Prod.fst)) = true) :
    fill library name data = .ok (t.filled data) := by
  -- The induction is on the pieces, with the data fixed.
  have pieces : ∀ ps : List Piece, ps.all (Piece.isFilledBy (data.map Prod.fst)) = true →
      renderPieces (document data) ps = .ok (String.join (ps.map (Piece.filled data))) := by
    intro ps
    induction ps with
    | nil => exact fun _ => rfl
    | cons p ps ih =>
      intro filled
      rw [List.all_cons, Bool.and_eq_true] at filled
      rw [renderPieces, Piece.render_eq filled.1, ih filled.2, List.map_cons, String.join_cons]
      rfl
  have rendered : library.render name (document data) = .ok (t.filled data) := by
    rw [TemplateLibrary.render, found]
    exact pieces t.pieces filled
  rw [document] at rendered
  rw [fill, rendered]

/-! ## Components -/

namespace Generator

/-- The source file of a component for React. -/
def React.source (options : GenerationOptions) (c : Component) : GeneratedFile where
  fileName := Naming.pascal c.name ++ (if options.typescript then ".tsx" else ".jsx")
  content := React.template.filled (React.data options c)
  kind := .component
  path := ["components", Naming.pascal c.name]

theorem React.component_eq (options : GenerationOptions) (c : Component) :
    React.component Framework.react.library options c = .ok (React.source options c) := by
  have names : (React.data options c).map Prod.fst =
      ["component", "props_interface", "annotation", "params", "classes", "body"] := rfl
  have filled : React.template.pieces.all
      (Piece.isFilledBy ((React.data options c).map Prod.fst)) = true := by
    rw [names]
    decide
  rw [React.component, fill_eq rfl filled]
  rfl

/-- The source file of a component for Vue. -/
def Vue.source (options : GenerationOptions) (c : Component) : GeneratedFile where
  fileName := Naming.pascal c.name ++ ".vue"
  content := Vue.template.filled (Vue.data options c)
  kind := .component
  path := ["components", Naming.pascal c.name]

theorem Vue.component_eq (options : GenerationOptions) (c : Component) :
    Vue.component Framework.vue.library options c = .ok (Vue.source options c) := by
  have names : (Vue.data options c).map Prod.fst =
      ["classes", "slot", "script_lang", "script", "style_lang", "style_import"] := rfl
  have filled : Vue.template.pieces.all
      (Piece.isFilledBy ((Vue.data options c).map Prod.fst)) = true := by
    rw [names]
    decide
  rw [Vue.component, fill_eq rfl filled]
  rfl

/-- The source file of a component for Angular. -/
def Angular.source (options : GenerationOptions) (c : Component) : GeneratedFile where
  fileName := Angular.fileStem c ++ ".ts"
  content := Angular.template.filled (Angular.data options c)
  kind := .component
  path := ["components", Naming.pascal c.name]

theorem Angular.component_eq (options : GenerationOptions) (c : Component) :
    Angular.component Framework.angular.library options c = .ok (Angular.source options c) := by
  have names : (Angular.data options c).map Prod.fst =
      ["core_imports", "selector", "classes", "styles", "class_decl"] := rfl
  have filled : Angular.template.pieces.all
      (Piece.isFilledBy ((Angular.data options c).map Prod.fst)) = true := by
    rw [names]
    decide
  rw [Angular.component, fill_eq rfl filled]
  rfl

/-- The file of the Angular module of a list of components. -/
def Angular.moduleSource (cs : List Component) : GeneratedFile where
  fileName := "components.module.ts"
  content := Angular.moduleTemplate.filled (Angular.moduleData cs)
  kind := .module
  path := []

theorem Angular.moduleFile_eq (cs : List Component) :
    Angular.moduleFile Framework.angular.library cs = .ok (some (Angular.moduleSource cs)) := by
  have names : (Angular.moduleData cs).map Prod.fst =
      ["imports", "declarations", "module_name"] := rfl
  have filled : Angular.moduleTemplate.pieces.all
      (Piece.isFilledBy ((Angular.moduleData cs).map Prod.fst)) = true := by
    rw [names]
    decide
  rw [Angular.moduleFile, fill_eq rfl filled]
  rfl

end Generator

/-! ## Frameworks -/

/-- The source file of a component for a framework. -/
def Framework.source : Framework → GenerationOptions → Component → GeneratedFile
  | .react => Generator.React.source
  | .vue => Generator.Vue.source
  | .angular => Generator.Angular.source

/-- Every component has its source file. -/
theorem Framework.component_generator (framework : Framework) (options : GenerationOptions)
    (c : Component) :
    (framework.generator options).component c = .ok (framework.source options c) := by
  cases framework with
  | react => exact Generator.React.component_eq options c
  | vue => exact Generator.Vue.component_eq options c
  | angular => exact Generator.Angular.component_eq options c

end DesignTokens
