import DesignTokens.Proofs.Generation.References

/-!
# References between generated files

Each reference in a generated file leads to the file that is meant: from the
source of a component to its stylesheet, and from the module of Angular to the
sources that declare the classes it imports.

Key definitions:

* `GeneratedFile.resolve` is the path that a reference leads to.
* `GenerationOptions.finish` makes a file as it is given out.
-/

namespace DesignTokens

open Naming Text

/-! ## Where references lead -/

namespace GeneratedFile

/-- The path that a reference in a file leads to, from the folder of the file. -/
def resolve (f : GeneratedFile) (reference : String) : String :=
  "/".intercalate ((Path.names reference).foldl FileTree.follow f.path)

/-- From the folder of a component, the reference to its stylesheet leads there. -/
theorem resolve_styleReference {f : GeneratedFile} {c : Component} (options : GenerationOptions)
    (placed : f.path = ["components", pascal c.name]) :
    f.resolve (Generator.styleReference options c)
      = (options.styleFormat.componentFile c).relativePath := by
  obtain ⟨file, called⟩ : ∃ file, (options.styleFormat.componentFile c).fileName = file := ⟨_, rfl⟩
  have plain : Path.IsPlain file := called ▸
    isPlain_componentFile options.styleFormat c _ (List.mem_append_right _ List.mem_cons_self)
  have text : Generator.styleReference options c = "../../styles/components" ++ "/" ++ file := by
    have slash : "../../styles/components/" = "../../styles/components" ++ "/" := by decide
    unfold Generator.styleReference Generator.styleImport
    simp only [slash, ← called, StyleFormat.componentFile, String.append_assoc]
  have around : Path.names "../../styles/components" = ["..", "..", "styles", "components"] := by
    decide
  have names : Path.names (Generator.styleReference options c)
      = ["..", "..", "styles", "components"] ++ [file] := by
    rw [text, Path.names_append_slash, Path.names_of_plain plain.noSlash plain.given, around]
  have folder : ["..", "..", "styles", "components"].foldl FileTree.follow
      ["components", pascal c.name] = ["styles", "components"] := by
    simp [FileTree.follow]
  rw [resolve, placed, names, List.foldl_append, folder, List.foldl_cons, List.foldl_nil,
    FileTree.follow_plain plain, ← called]
  rfl

/-- From the root, plain names lead where they say. -/
theorem resolve_parts {f : GeneratedFile} (placed : f.path = []) {parts : List String}
    (plain : ∀ name ∈ parts, Path.IsPlain name) {reference : String}
    (text : reference = "./" ++ "/".intercalate parts) :
    f.resolve reference = "/".intercalate parts := by
  have point : "./" = "." ++ "/" := by decide
  have here : Path.names "." = ["."] := by decide
  have still : FileTree.follow [] "." = [] := by decide
  rw [text, resolve, placed, point, Path.names_append_slash, Path.names_intercalate plain, here,
    List.singleton_append, List.foldl_cons, still, FileTree.foldl_follow_plain plain,
    List.nil_append]

/-- From the root, the reference to a component leads to its source up to the extension. -/
theorem resolve_importReference {f : GeneratedFile} (options : GenerationOptions) (c : Component)
    (placed : f.path = []) :
    f.resolve (Generator.Angular.importReference c) ++ ".ts"
      = (Generator.Angular.source options c).relativePath := by
  have stem : Path.IsPlain (Generator.Angular.fileStem c) :=
    isPlain_append (isIdentifierChar_of_mem_kebab c.name) (by decide) (by decide)
  have plain : ∀ name ∈ ["components", pascal c.name] ++ [Generator.Angular.fileStem c],
      Path.IsPlain name :=
    List.forall_mem_append.mpr ⟨isPlain_componentFolder c.name, List.forall_mem_singleton.mpr stem⟩
  have text : Generator.Angular.importReference c
      = "./" ++ "/".intercalate ["components", pascal c.name, Generator.Angular.fileStem c] := by
    rw [← String.toList_inj]
    simp [Generator.Angular.importReference]
  rw [resolve_parts placed plain text, ← String.toList_inj]
  simp [relativePath, parts, Generator.Angular.source]

end GeneratedFile

/-! ## Files as they are given out -/

/-- A file as it is given out, tidied or not. -/
def GenerationOptions.finish (options : GenerationOptions) (f : GeneratedFile) : GeneratedFile :=
  if options.formatOutput then f.tidied else f

section Finish

variable (options : GenerationOptions) (f : GeneratedFile)

@[simp] theorem path_finish : (options.finish f).path = f.path := by
  rw [GenerationOptions.finish]
  split <;> rfl

@[simp] theorem parts_finish : (options.finish f).parts = f.parts := by
  rw [GenerationOptions.finish]
  split <;> rfl

@[simp] theorem kind_finish : (options.finish f).kind = f.kind := by
  rw [GenerationOptions.finish]
  split <;> rfl

@[simp] theorem relativePath_finish : (options.finish f).relativePath = f.relativePath := by
  rw [GeneratedFile.relativePath, parts_finish]
  rfl

/-- What is read from a file is the same in the tidied file. -/
theorem restsBehind_finish {start : String} (given : start ≠ "") :
    restsBehind start (options.finish f).content = restsBehind start f.content := by
  rw [GenerationOptions.finish]
  split
  · exact restsBehind_tidy given f.content
  · rfl

theorem styleImports_finish : (options.finish f).styleImports = f.styleImports := by
  rw [GeneratedFile.styleImports, between, restsBehind_finish options f (by decide)]
  rfl

theorem styleUrls_finish : (options.finish f).styleUrls = f.styleUrls := by
  rw [GeneratedFile.styleUrls, between, restsBehind_finish options f (by decide)]
  rfl

theorem imports_finish : (options.finish f).imports = f.imports := by
  rw [GeneratedFile.imports, restsBehind_finish options f (by decide)]
  rfl

theorem classes_finish : (options.finish f).classes = f.classes := by
  rw [GeneratedFile.classes, restsBehind_finish options f (by decide)]
  rfl

theorem listed_finish (field : String) : (options.finish f).listed field = f.listed field := by
  have given : "  " ++ field ++ ": [" ≠ "" := by
    rw [ne_eq, String.append_eq_empty_iff, not_and]
    exact fun _ => by decide
  rw [GeneratedFile.listed, between, restsBehind_finish options f given]
  rfl

end Finish

theorem filter_kind_finish (options : GenerationOptions) (kind : FileKind)
    (files : List GeneratedFile) :
    (files.map options.finish).filter (fun f => f.kind = kind)
      = (files.filter (fun f => f.kind = kind)).map options.finish := by
  have kinds : ((fun f : GeneratedFile => decide (f.kind = kind)) ∘ options.finish)
      = fun f => decide (f.kind = kind) := by
    funext f
    rw [Function.comp_apply, kind_finish]
  rw [List.filter_map, kinds]

theorem start_bind_generate_eq_map (options : GenerationOptions) (ts : List Token) :
    (Session.start .standard options >>= fun s => s.generate ts)
      = .ok ((projectFiles options ts).map options.finish) := by
  rw [start_bind_generate]
  refine congrArg Except.ok ?_
  split
  · rename_i tidied
    exact List.map_congr_left fun f _ => (if_pos tidied).symm
  · rename_i plain
    exact (List.map_id' _).symm.trans (List.map_congr_left fun f _ => (if_neg plain).symm)

/-! ## Files of components -/

theorem kind_source (framework : Framework) (options : GenerationOptions) (c : Component) :
    (framework.source options c).kind = .component := by
  cases framework <;> rfl

theorem kind_globalFile (format : StyleFormat) (ts : List Token) :
    (format.globalFile ts).kind = .style := by
  cases format <;> rfl

theorem path_source (framework : Framework) (options : GenerationOptions) (c : Component) :
    (framework.source options c).path = ["components", pascal c.name] := by
  cases framework <;> rfl

theorem mem_projectFiles {options : GenerationOptions} {ts : List Token} {f : GeneratedFile} :
    f ∈ projectFiles options ts ↔
      f = options.styleFormat.globalFile (ts.filter (fun t => t.kind.isStyle)) ∨
      (∃ c ∈ ts.filterMap Token.component?,
        f = options.framework.source options c ∨ f = options.styleFormat.componentFile c) ∨
      f = closingSource options (ts.filterMap Token.component?) := by
  rw [projectFiles, List.mem_append, List.mem_cons, List.mem_flatMap, List.mem_singleton, or_assoc]
  simp only [List.mem_cons, List.not_mem_nil, or_false]

/-- The source files of a project are those of its components, in their order. -/
theorem filter_component_projectFiles (options : GenerationOptions) (ts : List Token) :
    (projectFiles options ts).filter (fun f => f.kind = .component)
      = (ts.filterMap Token.component?).map (options.framework.source options) := by
  have closing : (closingSource options (ts.filterMap Token.component?)).kind ≠ .component := by
    have other : FileKind.index ≠ .component ∧ FileKind.module ≠ .component := by decide
    rw [closingSource]
    cases options.framework with
    | angular => exact other.2
    | react => exact other.1
    | vue => exact other.1
  have pair (c : Component) : [options.framework.source options c,
      options.styleFormat.componentFile c].filter (fun f => f.kind = .component)
      = [options.framework.source options c] := by
    have stylesheet : (options.styleFormat.componentFile c).kind = .style := rfl
    rw [List.filter_cons_of_pos (by simp [kind_source]),
      List.filter_cons_of_neg (by simp [stylesheet]), List.filter_nil]
  rw [projectFiles, List.filter_append, List.filter_cons_of_neg (by simp [kind_globalFile]),
    List.filter_flatMap, List.filter_cons_of_neg (by simpa using closing), List.filter_nil,
    List.append_nil]
  simp only [pair]
  exact List.map_eq_flatMap.symm

theorem isPlain_of_mem_projectFiles {options : GenerationOptions} {ts : List Token}
    {f : GeneratedFile} (member : f ∈ projectFiles options ts) : f.IsPlain := by
  rcases mem_projectFiles.mp member with rfl | ⟨c, _, rfl | rfl⟩ | rfl
  · exact isPlain_globalFile _ _
  · exact isPlain_source _ _ _
  · exact isPlain_componentFile _ _
  · exact isPlain_closingSource _ _

/-- A file on the path of the source of a component is the source of a component with the same
identifier. -/
theorem source_of_relativePath_eq {options : GenerationOptions} {ts : List Token}
    {f : GeneratedFile} {c : Component} (member : f ∈ projectFiles options ts)
    (same : f.relativePath = (options.framework.source options c).relativePath) :
    ∃ d, f = options.framework.source options d ∧ pascal d.name = pascal c.name := by
  obtain ⟨fileName, parts⟩ := parts_source options.framework options c
  have placed : f.parts = ["components", pascal c.name, fileName] := by
    rw [← parts, ← Path.names_intercalate (isPlain_of_mem_projectFiles member),
      ← Path.names_intercalate (isPlain_source options.framework options c)]
    exact congrArg Path.names same
  -- The other files have paths of another length or start elsewhere.
  rcases mem_projectFiles.mp member with rfl | ⟨d, _, rfl | rfl⟩ | rfl
  · have known := parts_globalFile options.styleFormat (ts.filter (fun t => t.kind.isStyle))
    rw [placed] at known
    simp at known
  · obtain ⟨other, parts'⟩ := parts_source options.framework options d
    rw [parts', List.cons.injEq, List.cons.injEq] at placed
    exact ⟨d, rfl, placed.2.1⟩
  · rw [parts_componentFile, List.cons.injEq] at placed
    exact absurd placed.1 (by decide)
  · have known := parts_closingSource options (ts.filterMap Token.component?)
    rw [placed] at known
    simp at known

/-! ## References -/

theorem resolve_styleReference_source (options : GenerationOptions) (c : Component) :
    (options.finish (options.framework.source options c)).resolve
        (Generator.styleReference options c)
      = (options.finish (options.styleFormat.componentFile c)).relativePath := by
  rw [relativePath_finish]
  exact GeneratedFile.resolve_styleReference options (by rw [path_finish, path_source])

theorem resolve_styleImports {options : GenerationOptions} (vue : options.framework = .vue)
    (c : Component) :
    let source := options.finish (options.framework.source options c)
    source.styleImports.map source.resolve
      = [(options.finish (options.styleFormat.componentFile c)).relativePath] := by
  have read : (options.framework.source options c).styleImports
      = [Generator.styleReference options c] := by
    rw [vue]
    exact Generator.Vue.styleImports_source options c
  intro source
  rw [styleImports_finish, read, List.map_singleton, resolve_styleReference_source]

theorem resolve_styleUrls {options : GenerationOptions} (angular : options.framework = .angular)
    (c : Component) :
    let source := options.finish (options.framework.source options c)
    source.styleUrls.map source.resolve = if options.styleFormat = .scss then
      [(options.finish (options.styleFormat.componentFile c)).relativePath] else [] := by
  have read : (options.framework.source options c).styleUrls
      = if options.styleFormat = .scss then [Generator.styleReference options c] else [] := by
    rw [angular]
    exact Generator.Angular.styleUrls_source options c
  intro source
  rw [styleUrls_finish, read]
  split
  · rw [List.map_singleton, resolve_styleReference_source]
  · rfl

/-- The file that an import of the module leads to declares the class that is imported, and so
does every other file on this path. -/
theorem declared_of_importReference {options : GenerationOptions} {ts : List Token}
    (angular : options.framework = .angular) {moduleFile : GeneratedFile}
    (placed : moduleFile.path = []) {c : Component} (member : c ∈ ts.filterMap Token.component?) :
    let files := (projectFiles options ts).map options.finish
    let path := moduleFile.resolve (Generator.Angular.importReference c) ++ ".ts"
    (∃ f ∈ files, f.relativePath = path) ∧
      ∀ f ∈ files, f.relativePath = path →
        f.kind = .component ∧ f.classes = [Generator.Angular.className c] := by
  have source (d : Component) :
      options.framework.source options d = Generator.Angular.source options d := by
    rw [angular]
    rfl
  have leads : moduleFile.resolve (Generator.Angular.importReference c) ++ ".ts"
      = (options.framework.source options c).relativePath := by
    rw [source, GeneratedFile.resolve_importReference options c placed]
  intro files path
  -- Several components may have one path.  All of them have the same class.
  refine ⟨⟨options.finish (options.framework.source options c), List.mem_map_of_mem
    (mem_projectFiles.mpr (.inr (.inl ⟨c, member, .inl rfl⟩))), ?_⟩, ?_⟩
  · rw [relativePath_finish]
    exact leads.symm
  · intro f there same
    obtain ⟨raw, inside, rfl⟩ := List.mem_map.mp there
    rw [relativePath_finish] at same
    obtain ⟨d, rfl, name⟩ := source_of_relativePath_eq inside (same.trans leads)
    have classes : Generator.Angular.className d = Generator.Angular.className c := by
      rw [Generator.Angular.className, name]
      rfl
    rw [kind_finish, kind_source, classes_finish, source, Generator.Angular.classes_source, classes]
    exact ⟨rfl, rfl⟩

/-- The references of sources to stylesheets and of the module to sources all lead to the files
that are meant: to the stylesheet of the same component, and to the source that declares the class
that is imported.  The module declares and exports these classes, one for each component, in their
order. -/
theorem references_resolve (options : GenerationOptions) (ts : List Token) :
    ∃ files, (Session.start .standard options >>= fun s => s.generate ts) = .ok files ∧
      let components := ts.filterMap Token.component?
      let source c := options.finish (options.framework.source options c)
      let style c := options.finish (options.styleFormat.componentFile c)
      files.filter (fun f => f.kind = .component) = components.map source ∧
      (∀ c ∈ components, style c ∈ files ∧
        match options.framework with
        | .react => True
        | .vue => (source c).styleImports.map (source c).resolve = [(style c).relativePath]
        | .angular => (source c).styleUrls.map (source c).resolve
            = if options.styleFormat = .scss then [(style c).relativePath] else []) ∧
      (options.framework = .angular → ∃ moduleFile ∈ files, moduleFile.kind = .module ∧
        ∃ relative, moduleFile.imports
            = [("NgModule", "@angular/core"), ("CommonModule", "@angular/common")] ++ relative ∧
          (∀ i ∈ relative, (∃ f ∈ files, f.relativePath = moduleFile.resolve i.2 ++ ".ts") ∧
            ∀ f ∈ files, f.relativePath = moduleFile.resolve i.2 ++ ".ts" →
              f.kind = .component ∧ f.classes = [i.1]) ∧
          relative.map Prod.fst = components.map Generator.Angular.className ∧
          ∀ field ∈ ["declarations", "exports"],
            moduleFile.listed field = [relative.map Prod.fst]) := by
  refine ⟨_, start_bind_generate_eq_map options ts, ?_, ?_, ?_⟩
  · rw [filter_kind_finish, filter_component_projectFiles, List.map_map]
    rfl
  · intro c member
    refine ⟨List.mem_map_of_mem (mem_projectFiles.mpr (.inr (.inl ⟨c, member, .inr rfl⟩))), ?_⟩
    cases framework : options.framework with
    | react => trivial
    | vue =>
      have lead := resolve_styleImports framework c
      rwa [framework] at lead
    | angular =>
      have lead := resolve_styleUrls framework c
      rwa [framework] at lead
  · -- Behind its own two imports the module has one for each component.
    intro angular
    have closing : closingSource options (ts.filterMap Token.component?)
        = Generator.Angular.moduleSource (ts.filterMap Token.component?) := by
      rw [closingSource, angular]
    have placed : (options.finish (Generator.Angular.moduleSource
        (ts.filterMap Token.component?))).path = [] := by
      rw [path_finish]
      rfl
    refine ⟨options.finish (Generator.Angular.moduleSource (ts.filterMap Token.component?)),
      List.mem_map_of_mem (mem_projectFiles.mpr (.inr (.inr closing.symm))), ?_,
      (ts.filterMap Token.component?).map
        (fun c => (Generator.Angular.className c, Generator.Angular.importReference c)),
      ?_, ?_, ?_, ?_⟩
    · rw [kind_finish]
      rfl
    · rw [imports_finish, Generator.Angular.imports_moduleSource]
      rfl
    · exact List.forall_mem_map.mpr fun c member =>
        declared_of_importReference angular placed member
    · rw [List.map_map]
      rfl
    · intro field known
      rw [listed_finish, Generator.Angular.listed_moduleSource known, List.map_map]
      rfl

end DesignTokens
