import DesignTokens.Proofs.Generation.Resolution

/-!
# Re-exports of the index

The index of a project has one re-export for each component.  It leads to the folder with the
source of the component, in which there is no index, and not to the source itself, so that no
module is found where it leads.

Key definitions:

* `GeneratedFile.reexports` are names with the files that they are taken from.
* `GeneratedFile.IsAt` tells where a file stands up to its extension.
* `HasModule` tells whether a module is found at a path.
-/

namespace DesignTokens

open Naming Text

/-! ## Modules -/

namespace GeneratedFile

/-- The names that a file exports again, with the files that they come from. -/
def reexports (f : GeneratedFile) : List (String × String) :=
  (restsBehind "export \x7b " f.content).filterMap importOf?

/-- Whether a path is that of a file without its extension. -/
def IsAt (f : GeneratedFile) (path : String) : Prop :=
  ∃ extension, '/' ∉ extension.toList ∧ f.relativePath = path ++ "." ++ extension

/-- A file with plain names stands in the folder in which it is found. -/
theorem IsAt.parts_eq {f : GeneratedFile} (plain : f.IsPlain) {folder name : String}
    (whole : '/' ∉ name.toList) (isAt : f.IsAt (folder ++ "/" ++ name)) :
    ∃ fileName, f.parts = Path.names folder ++ [fileName] := by
  obtain ⟨extension, single, path⟩ := isAt
  have inFolder : f.relativePath = folder ++ "/" ++ (name ++ "." ++ extension) := by
    rw [path]
    simp only [String.append_assoc]
  have noSlash : '/' ∉ (name ++ "." ++ extension).toList := by
    simp [whole, single]
  have given : name ++ "." ++ extension ≠ "" := by
    rw [ne_eq, String.append_eq_empty_iff, String.append_eq_empty_iff]
    exact fun ⟨⟨_, point⟩, _⟩ => absurd point (by decide)
  refine ⟨name ++ "." ++ extension, ?_⟩
  rw [← Path.names_of_plain noSlash given, ← Path.names_append_slash, ← inFolder]
  exact (Path.names_intercalate plain).symm

end GeneratedFile

/-- Whether there is a module at a path, which is that of a file without its extension, or of a
folder with an index. -/
def HasModule (files : List GeneratedFile) (path : String) : Prop :=
  ∃ f ∈ files, f.IsAt path ∨ f.kind = .index ∧ "/".intercalate f.path = path

/-! ## The index -/

/-- Where the index expects a component. -/
def indexReference (c : Component) : String := "./components/" ++ pascal c.name

/-- The line of a component exports its name from where the index expects it. -/
theorem exportLine_eq (c : Component) : exportLine c =
    "export \x7b " ++ Generator.Angular.importRest (pascal c.name, indexReference c) := by
  rw [← String.toList_inj]
  simp [exportLine, Generator.Angular.importRest, indexReference]

theorem blank_not_mem_pascal (name : String) : ' ' ∉ (pascal name).toList := fun member =>
  absurd (isIdentifierChar_of_mem_pascal name _ member) (by decide)

/-- The index exports all components, each from where it expects it. -/
theorem reexports_indexFile (options : GenerationOptions) (cs : List Component) :
    (indexFile options cs).reexports = cs.map (fun c => (pascal c.name, indexReference c)) := by
  let exported (c : Component) := (pascal c.name, indexReference c)
  let rests := (cs.map exported).map Generator.Angular.importRest
  have lines : [] ++ rests.map ("export \x7b " ++ ·) ++ [] = cs.map exportLine := by
    rw [List.nil_append, List.append_nil, List.map_map, List.map_map]
    exact List.map_congr_left fun c _ => (exportLine_eq c).symm
  have inside : ∀ rest ∈ rests,
      IsSingle ("export \x7b " ++ rest) ∧ IsTidyLine ("export \x7b " ++ rest).toList := by
    refine List.forall_mem_map.mpr (List.forall_mem_map.mpr fun c _ => ?_)
    rw [← exportLine_eq]
    exact ⟨lineFeed_not_mem_exportLine c, isTidyLine_exportLine c⟩
  have found : restsBehind "export \x7b " (unlines ([] ++ rests.map ("export \x7b " ++ ·) ++ []))
      = rests := restsBehind_unlines (by decide) (List.forall_mem_nil _) inside
  rw [GeneratedFile.reexports, indexFile, ← lines, found]
  exact Generator.Angular.filterMap_importRest
    (List.forall_mem_map.mpr fun c _ => blank_not_mem_pascal c.name)

theorem closingSource_of_indexed {options : GenerationOptions}
    (indexed : options.framework ≠ .angular) (cs : List Component) :
    closingSource options cs = indexFile options cs := by
  rw [closingSource]
  cases framework : options.framework with
  | angular => exact absurd framework indexed
  | react => rfl
  | vue => rfl

theorem filter_index_projectFiles {options : GenerationOptions}
    (indexed : options.framework ≠ .angular) (ts : List Token) :
    (projectFiles options ts).filter (fun f => f.kind = .index)
      = [indexFile options (ts.filterMap Token.component?)] := by
  have index : (indexFile options (ts.filterMap Token.component?)).kind = .index := rfl
  have pairs : ((ts.filterMap Token.component?).flatMap (fun c =>
      [options.framework.source options c, options.styleFormat.componentFile c])).filter
        (fun f => f.kind = .index) = [] := by
    refine List.filter_eq_nil_iff.mpr fun f member => ?_
    obtain ⟨c, _, pair⟩ := List.mem_flatMap.mp member
    rcases List.mem_pair.mp pair with rfl | rfl
    · simp [kind_source]
    · simp [StyleFormat.componentFile]
  rw [projectFiles, closingSource_of_indexed indexed, List.filter_append,
    List.filter_cons_of_neg (by simp [kind_globalFile]), pairs, List.nil_append,
    List.filter_cons_of_pos (by simp [index]), List.filter_nil]

/-! ## Where re-exports lead -/

/-- No file of a project stands among the folders of the components. -/
theorem parts_ne_of_mem_projectFiles {options : GenerationOptions} {ts : List Token}
    {f : GeneratedFile} (member : f ∈ projectFiles options ts) (fileName : String) :
    f.parts ≠ ["components", fileName] := by
  intro placed
  rcases mem_projectFiles.mp member with rfl | ⟨c, _, rfl | rfl⟩ | rfl
  · have known := parts_globalFile options.styleFormat (ts.filter (fun t => t.kind.isStyle))
    rw [placed] at known
    simp at known
  · obtain ⟨_, parts⟩ := parts_source options.framework options c
    rw [placed] at parts
    simp at parts
  · rw [parts_componentFile] at placed
    simp at placed
  · have known := parts_closingSource options (ts.filterMap Token.component?)
    rw [placed] at known
    simp at known

/-- The only index of a project stands at its root, so that no folder of a component is a
module. -/
theorem not_hasModule_folder {options : GenerationOptions} (indexed : options.framework ≠ .angular)
    (ts : List Token) (name : String) : ¬ HasModule ((projectFiles options ts).map options.finish)
      ("/".intercalate ["components", pascal name]) := by
  rintro ⟨_, member, isModule⟩
  obtain ⟨f, inside, rfl⟩ := List.mem_map.mp member
  rcases isModule with ⟨extension, single, path⟩ | ⟨kind, path⟩
  · rw [relativePath_finish] at path
    have isAt : f.IsAt ("components" ++ "/" ++ pascal name) := ⟨extension, single, path⟩
    obtain ⟨fileName, parts⟩ := isAt.parts_eq (isPlain_of_mem_projectFiles inside)
      (isPlain_pascal name).noSlash
    exact parts_ne_of_mem_projectFiles inside fileName parts
  · rw [kind_finish] at kind
    have index : f ∈ (projectFiles options ts).filter (fun f => f.kind = .index) :=
      List.mem_filter.mpr ⟨inside, decide_eq_true kind⟩
    rw [filter_index_projectFiles indexed, List.mem_singleton] at index
    have names := Path.names_intercalate (isPlain_componentFolder name)
    rw [← path, path_finish, index] at names
    exact List.cons_ne_nil _ _ names.symm

/-- From the index, the source of a component is found one folder further in. -/
theorem isAt_source {options : GenerationOptions} (indexed : options.framework ≠ .angular)
    (c : Component) : (options.framework.source options c).IsAt
      ("/".intercalate ["components", pascal c.name, pascal c.name]) := by
  cases framework : options.framework with
  | angular => exact absurd framework indexed
  | react =>
    refine ⟨if options.typescript then "tsx" else "jsx", by split <;> decide, ?_⟩
    rw [← String.toList_inj]
    cases typescript : options.typescript <;>
      simp [GeneratedFile.relativePath, GeneratedFile.parts, Framework.source,
        Generator.React.source, typescript]
  | vue =>
    refine ⟨"vue", by decide, ?_⟩
    rw [← String.toList_inj]
    simp [GeneratedFile.relativePath, GeneratedFile.parts, Framework.source, Generator.Vue.source]

/-- Where a re-export would find the source of a component. -/
def sourceReference (c : Component) : String := indexReference c ++ "/" ++ pascal c.name

section Index

variable {index : GeneratedFile} (placed : index.path = []) (c : Component)
include placed

theorem resolve_indexReference :
    index.resolve (indexReference c) = "/".intercalate ["components", pascal c.name] := by
  have text : indexReference c = "./" ++ "/".intercalate ["components", pascal c.name] := by
    rw [← String.toList_inj]
    simp [indexReference]
  exact GeneratedFile.resolve_parts placed (isPlain_componentFolder c.name) text

theorem resolve_sourceReference :
    index.resolve (sourceReference c)
      = "/".intercalate ["components", pascal c.name, pascal c.name] := by
  have plain : ∀ n ∈ ["components", pascal c.name] ++ [pascal c.name], Path.IsPlain n :=
    List.forall_mem_append.mpr ⟨isPlain_componentFolder c.name,
      List.forall_mem_singleton.mpr (isPlain_pascal c.name)⟩
  have text : sourceReference c
      = "./" ++ "/".intercalate ["components", pascal c.name, pascal c.name] := by
    rw [← String.toList_inj]
    simp [sourceReference, indexReference]
  exact GeneratedFile.resolve_parts placed plain text

end Index

/-- The one index of a project exports all its components in their order, each from the folder in
which its source is.  None of these folders is a module, so that the re-exports lead to modules
only where there are none.  One folder further in, each of them would find the source. -/
theorem reexports_lead_to_folders {options : GenerationOptions}
    (indexed : options.framework ≠ .angular) (ts : List Token) :
    ∃ files, (Session.start .standard options >>= fun s => s.generate ts) = .ok files ∧
      let components := ts.filterMap Token.component?
      let source c := options.finish (options.framework.source options c)
      files.filter (fun f => f.kind = .component) = components.map source ∧
      ∃ index, files.filter (fun f => f.kind = .index) = [index] ∧
        index.reexports = components.map (fun c => (pascal c.name, indexReference c)) ∧
        (∀ c ∈ components, index.resolve (indexReference c) = "/".intercalate (source c).path ∧
          ¬ HasModule files (index.resolve (indexReference c)) ∧
          (source c).IsAt (index.resolve (sourceReference c))) ∧
        ((∀ r ∈ index.reexports, HasModule files (index.resolve r.2)) ↔ components = []) := by
  obtain ⟨index, called⟩ : ∃ index,
      options.finish (indexFile options (ts.filterMap Token.component?)) = index := ⟨_, rfl⟩
  have placed : index.path = [] := by
    rw [← called, path_finish]
    rfl
  have reexports : index.reexports
      = (ts.filterMap Token.component?).map (fun c => (pascal c.name, indexReference c)) := by
    rw [← called, GeneratedFile.reexports, restsBehind_finish options _ (by decide)]
    exact reexports_indexFile options _
  have missing (c : Component) : ¬ HasModule ((projectFiles options ts).map options.finish)
      (index.resolve (indexReference c)) := by
    rw [resolve_indexReference placed]
    exact not_hasModule_folder indexed ts c.name
  refine ⟨_, start_bind_generate_eq_map options ts, ?_, index, ?_, reexports, ?_, ?_⟩
  · rw [filter_kind_finish, filter_component_projectFiles, List.map_map]
    rfl
  · rw [filter_kind_finish, filter_index_projectFiles indexed, List.map_singleton, called]
  · intro c _
    refine ⟨?_, missing c, ?_⟩
    · rw [resolve_indexReference placed, path_finish, path_source]
    · obtain ⟨extension, single, path⟩ := isAt_source indexed c
      rw [resolve_sourceReference placed]
      exact ⟨extension, single, (relativePath_finish _ _).trans path⟩
  · rw [reexports, List.forall_mem_map, List.eq_nil_iff_forall_not_mem]
    exact ⟨fun found c member => missing c (found c member),
      fun none c member => absurd member (none c)⟩

/-- Options for single-file components with nested stylesheets. -/
def nestedVue : GenerationOptions := ⟨.vue, .scss, false, false⟩

/-- Two components, the second of which has a name of two words. -/
def cardAndIcon : List Token := [.ofComponent (.bare "Card"), .ofComponent (.bare "icon button")]

theorem reexports_lead_to_folders_cardAndIcon :
    nestedVue.framework ≠ .angular ∧
    ∃ files, (Session.start .standard nestedVue >>= fun s => s.generate cardAndIcon) = .ok files ∧
      ∃ index ∈ files, index.reexports
          = [("Card", "./components/Card"), ("IconButton", "./components/IconButton")] ∧
        ¬ ∀ r ∈ index.reexports, HasModule files (index.resolve r.2) := by
  have indexed : nestedVue.framework ≠ .angular := by decide
  obtain ⟨files, generated, _, index, only, reexports, _, iff⟩ :=
    reexports_lead_to_folders indexed cardAndIcon
  refine ⟨indexed, files, generated, index, ?_, reexports.trans (by decide +kernel), ?_⟩
  · exact (List.mem_filter.mp (only ▸ List.mem_singleton_self index)).1
  · exact fun found => absurd (iff.mp found) (List.cons_ne_nil _ _)

/-- The re-export of a single component with the options that are taken if none are given. -/
theorem reexport_of_card :
    ∃ files, (Session.start .standard .standard
        >>= fun s => s.generate [.ofComponent (.bare "Card")]) = .ok files ∧
      files.map GeneratedFile.relativePath = ["styles/global.css", "components/Card/Card.tsx",
        "styles/components/Card.css", "index.ts"] ∧
      ∃ index ∈ files, index.kind = .index ∧
        index.reexports = [("Card", "./components/Card")] ∧
        index.resolve "./components/Card" = "components/Card" ∧
        ¬ HasModule files "components/Card" := by
  have indexed : GenerationOptions.standard.framework ≠ .angular := by decide
  have name : pascal "Card" = "Card" := by decide +kernel
  have missing := not_hasModule_folder indexed [.ofComponent (.bare "Card")] "Card"
  have folder : "/".intercalate ["components", "Card"] = "components/Card" := by decide
  rw [name, folder] at missing
  refine ⟨_, start_bind_generate_eq_map .standard _, by decide +kernel,
    GenerationOptions.standard.finish (indexFile .standard [.bare "Card"]), ?_, ?_, ?_, ?_, missing⟩
  · decide +kernel
  · decide +kernel
  · decide +kernel
  · decide +kernel

end DesignTokens
