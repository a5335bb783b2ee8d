import DesignTokens.Proofs.Generation.Paths

/-!
# Paths of generated files that differ

The paths of the files in a project differ just if the identifiers of its
components do.  No file of a component has the path of a file that belongs to
the whole project.

Key definition: `componentNames`.
-/

namespace DesignTokens

open Naming

/-! ## Paths as texts -/

/-- Plain names are found again in the path that is made of them. -/
theorem Path.names_intercalate {parts : List String} (plain : ∀ name ∈ parts, Path.IsPlain name) :
    Path.names ("/".intercalate parts) = parts := by
  induction parts with
  | nil => decide
  | cons name rest ih =>
    rw [List.forall_mem_cons] at plain
    cases rest with
    | nil =>
      rw [String.intercalate_singleton]
      exact Path.names_of_plain plain.1.noSlash plain.1.given
    | cons next rest =>
      rw [String.intercalate_cons_cons, Path.names_append_slash, ih plain.2,
        Path.names_of_plain plain.1.noSlash plain.1.given]
      rfl

/-- Files have different paths just if the names on their paths differ. -/
theorem nodup_relativePath_iff {files : List GeneratedFile} (plain : ∀ f ∈ files, f.IsPlain) :
    (files.map GeneratedFile.relativePath).Nodup ↔ (files.map GeneratedFile.parts).Nodup := by
  have texts : files.map GeneratedFile.relativePath
      = (files.map GeneratedFile.parts).map "/".intercalate := by
    rw [List.map_map]
    rfl
  rw [texts]
  refine ⟨List.Nodup.of_map _, fun apart => apart.map_on ?_⟩
  intro parts member parts' member' same
  obtain ⟨f, inside, rfl⟩ := List.mem_map.mp member
  obtain ⟨g, inside', rfl⟩ := List.mem_map.mp member'
  rw [← Path.names_intercalate (plain f inside), ← Path.names_intercalate (plain g inside'), same]

/-! ## Files of components -/

/-- The identifiers of the components in a list of tokens. -/
def componentNames (ts : List Token) : List String :=
  (ts.filterMap Token.component?).map (fun c => pascal c.name)

theorem parts_source (framework : Framework) (options : GenerationOptions) (c : Component) :
    ∃ fileName, (framework.source options c).parts = ["components", pascal c.name, fileName] := by
  cases framework <;> exact ⟨_, rfl⟩

theorem parts_componentFile (format : StyleFormat) (c : Component) :
    (format.componentFile c).parts
      = ["styles", "components", pascal c.name ++ "." ++ format.extension] := rfl

/-- The files of two components have different paths just if their identifiers differ. -/
theorem disjoint_parts_iff (framework : Framework) (format : StyleFormat)
    (options : GenerationOptions) (c d : Component) :
    List.Disjoint [(framework.source options c).parts, (format.componentFile c).parts]
        [(framework.source options d).parts, (format.componentFile d).parts]
      ↔ pascal c.name ≠ pascal d.name := by
  obtain ⟨source, first⟩ := parts_source framework options c
  obtain ⟨source', second⟩ := parts_source framework options d
  rw [first, second, parts_componentFile, parts_componentFile]
  constructor
  · intro disjoint same
    -- One identifier makes one stylesheet.
    refine disjoint (a := ["styles", "components", pascal c.name ++ "." ++ format.extension]) ?_ ?_
    · exact List.mem_cons_of_mem _ List.mem_cons_self
    · rw [same]
      exact List.mem_cons_of_mem _ List.mem_cons_self
  · intro differ
    have stylesheets : pascal d.name ++ "." ++ format.extension
        ≠ pascal c.name ++ "." ++ format.extension := by
      rw [String.append_assoc, String.append_assoc]
      exact fun same => differ ((String.append_left_inj _).mp same).symm
    simp [differ.symm, stylesheets]

/-! ## Files of projects -/

theorem parts_globalFile (format : StyleFormat) (ts : List Token) :
    (format.globalFile ts).parts
      ∈ [["styles", "global.css"], ["styles", "global.scss"], ["tailwind.config.js"]] := by
  cases format
  · exact List.mem_cons_self
  · exact List.mem_cons_of_mem _ List.mem_cons_self
  · exact List.mem_cons_of_mem _ (List.mem_cons_of_mem _ List.mem_cons_self)

theorem parts_closingSource (options : GenerationOptions) (cs : List Component) :
    (closingSource options cs).parts
      ∈ [["components.module.ts"], ["index.ts"], ["index.js"]] := by
  have index : (indexFile options cs).parts
      ∈ [["components.module.ts"], ["index.ts"], ["index.js"]] := by
    show [if options.typescript then "index.ts" else "index.js"] ∈ _
    split <;> decide
  rw [closingSource]
  cases options.framework with
  | react => exact index
  | vue => exact index
  | angular => exact List.mem_cons_self

/-- The paths of the files of components. -/
def componentPaths (options : GenerationOptions) (cs : List Component) : List (List String) :=
  cs.flatMap fun c => [(options.framework.source options c).parts,
    (options.styleFormat.componentFile c).parts]

theorem length_of_mem_componentPaths {options : GenerationOptions} {cs : List Component}
    {parts : List String} (member : parts ∈ componentPaths options cs) : parts.length = 3 := by
  obtain ⟨c, _, pair⟩ := List.mem_flatMap.mp member
  obtain ⟨fileName, source⟩ := parts_source options.framework options c
  rcases List.mem_pair.mp pair with rfl | rfl
  · rw [source]
    rfl
  · rfl

theorem nodup_componentPaths (options : GenerationOptions) (cs : List Component) :
    (componentPaths options cs).Nodup ↔ (cs.map (fun c => pascal c.name)).Nodup := by
  have each : ∀ c ∈ cs, [(options.framework.source options c).parts,
      (options.styleFormat.componentFile c).parts].Nodup := by
    intro c _
    obtain ⟨fileName, source⟩ := parts_source options.framework options c
    rw [source, parts_componentFile]
    simp
  have names : (cs.map (fun c => pascal c.name)).Nodup
      ↔ cs.Pairwise (fun c d => pascal c.name ≠ pascal d.name) := List.pairwise_map
  rw [componentPaths, List.nodup_flatMap, names]
  have apart := disjoint_parts_iff options.framework options.styleFormat options
  exact ⟨fun both => both.2.imp fun disjoint => (apart _ _).mp disjoint,
    fun differ => ⟨each, differ.imp fun names => (apart _ _).mpr names⟩⟩

/-- The paths of a project differ just if the identifiers of its components do. -/
theorem nodup_parts_projectFiles (options : GenerationOptions) (ts : List Token) :
    ((projectFiles options ts).map GeneratedFile.parts).Nodup ↔ (componentNames ts).Nodup := by
  let styles := (options.styleFormat.globalFile (ts.filter (fun t => t.kind.isStyle))).parts
  let closing := (closingSource options (ts.filterMap Token.component?)).parts
  let inner := componentPaths options (ts.filterMap Token.component?)
  have paths : (projectFiles options ts).map GeneratedFile.parts
      = styles :: (inner ++ [closing]) := by
    rw [projectFiles, List.map_append, List.map_cons, List.map_flatMap]
    rfl
  have stylesKnown : styles ∈ _ := parts_globalFile _ _
  have closingKnown : closing ∈ _ := parts_closingSource _ _
  -- The files of the whole project have shorter paths than those of components.
  have outside {parts : List String} (short : parts.length ≠ 3) : parts ∉ inner := fun member =>
    short (length_of_mem_componentPaths member)
  have stylesShort : ∀ parts ∈ [["styles", "global.css"], ["styles", "global.scss"],
      ["tailwind.config.js"]], parts.length ≠ 3 := by decide
  have closingShort : ∀ parts ∈ [["components.module.ts"], ["index.ts"], ["index.js"]],
      parts.length ≠ 3 ∧ parts ∉ [["styles", "global.css"], ["styles", "global.scss"],
        ["tailwind.config.js"]] := by decide
  have other : styles ≠ closing := fun same =>
    (closingShort closing closingKnown).2 (same ▸ stylesKnown)
  have names : (componentNames ts).Nodup ↔ inner.Nodup := (nodup_componentPaths _ _).symm
  rw [paths, names, List.nodup_cons, List.nodup_append, List.mem_append, List.mem_singleton]
  constructor
  · exact fun ⟨_, apart, _⟩ => apart
  · intro apart
    refine ⟨?_, apart, List.nodup_singleton _, ?_⟩
    · rintro (member | same)
      · exact outside (stylesShort styles stylesKnown) member
      · exact other same
    · intro parts member parts' last same
      rw [List.mem_singleton.mp last] at same
      exact outside (closingShort closing closingKnown).1 (same ▸ member)

/-- Every list of tokens has its files, and their paths differ just if the identifiers of its
components do. -/
theorem exists_files_nodup_iff (options : GenerationOptions) (ts : List Token) :
    ∃ files, (Session.start .standard options >>= fun s => s.generate ts) = .ok files
      ∧ (∀ f ∈ files, f.IsPlain)
      ∧ ((files.map GeneratedFile.parts).Nodup ↔ (componentNames ts).Nodup) := by
  refine ⟨_, start_bind_generate options ts, ?_, ?_⟩
  · exact isPlain_of_generate (generate_standardSession options ts)
  · have tidied : (if options.formatOutput then (projectFiles options ts).map GeneratedFile.tidied
        else projectFiles options ts).map GeneratedFile.parts
        = (projectFiles options ts).map GeneratedFile.parts := by
      split
      · rw [List.map_map]
        rfl
      · rfl
    rw [tidied]
    exact nodup_parts_projectFiles options ts

end DesignTokens
