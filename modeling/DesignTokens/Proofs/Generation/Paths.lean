import DesignTokens.Proofs.Files.Frame
import DesignTokens.Proofs.Generation.Files

/-!
# Paths of generated files

The names of files and folders in a project are fixed, or they are identifiers
and slugs of components behind which stands a fixed extension.  Whatever a
component is called, none of them leads out of its folder.
-/

namespace DesignTokens

/-! ## Names made of identifiers -/

namespace Naming

instance (c : Char) : Decidable (IsIdentifierChar c) :=
  inferInstanceAs (Decidable (isSlugChar c = true ∨ c = '-' ∨ c = '_' ∨ isCapitalForm c = true))

theorem not_isIdentifierChar : ¬ IsIdentifierChar '/' ∧ ¬ IsIdentifierChar '\\' ∧
    ¬ IsIdentifierChar '\x00' ∧ ¬ IsIdentifierChar '.' := by
  decide

theorem isIdentifierChar_of_mem_kebab (name : String) :
    ∀ c ∈ (kebab name).toList, IsIdentifierChar c := by
  rw [kebab, String.toList_ofList]
  exact fun c member => (isSlugChar_of_mem_kebabChars member).imp_right .inl

theorem guarded_ne_nil (cs : List Char) : guarded cs ≠ [] := by
  cases cs with
  | nil => exact List.cons_ne_nil _ _
  | cons c cs =>
    rw [guarded]
    split <;> exact List.cons_ne_nil _ _

theorem isPlain_pascal (name : String) : Path.IsPlain (pascal name) := by
  have chars := isIdentifierChar_of_mem_pascal name
  obtain ⟨slash, backslash, nul, point⟩ := not_isIdentifierChar
  -- A name without a point is not made of points.
  have noPoint : '.' ∉ (pascal name).toList := fun member => point (chars _ member)
  refine ⟨?_, fun member => slash (chars _ member), fun member => backslash (chars _ member),
    fun member => nul (chars _ member), ?_, ?_⟩
  · intro none
    rw [pascal, String.ofList_eq_empty_iff] at none
    exact guarded_ne_nil _ none
  · intro here
    rw [here] at noPoint
    exact noPoint (by decide)
  · intro up
    rw [up] at noPoint
    exact noPoint (by decide)

/-- An identifier or a slug with an extension is a plain name. -/
theorem isPlain_append {stem extension : String} (chars : ∀ c ∈ stem.toList, IsIdentifierChar c)
    (plain : Path.IsPlain extension) (long : 2 < extension.length) :
    Path.IsPlain (stem ++ extension) := by
  obtain ⟨slash, backslash, nul, _⟩ := not_isIdentifierChar
  have outside : ∀ c, ¬ IsIdentifierChar c → c ∉ extension.toList →
      c ∉ (stem ++ extension).toList := by
    intro c other absent member
    rw [String.toList_append, List.mem_append] at member
    exact member.elim (fun here => other (chars c here)) absent
  have length : 2 < (stem ++ extension).length := by
    rw [String.length_append]
    omega
  refine ⟨?_, outside _ slash plain.noSlash, outside _ backslash plain.noBackslash,
    outside _ nul plain.noNul, ?_, ?_⟩
  · intro none
    rw [none] at length
    exact absurd length (by decide)
  · intro here
    rw [here] at length
    exact absurd length (by decide)
  · intro up
    rw [up] at length
    exact absurd length (by decide)

end Naming

/-! ## Generated files -/

/-- Whether all names on the path of a file are plain. -/
def GeneratedFile.IsPlain (f : GeneratedFile) : Prop := ∀ name ∈ f.parts, Path.IsPlain name

theorem GeneratedFile.IsPlain.tidied {f : GeneratedFile} (plain : f.IsPlain) :
    f.tidied.IsPlain := by
  rw [IsPlain, parts, GeneratedFile.tidied]
  exact plain

open Naming

theorem isPlain_componentFolder (name : String) :
    ∀ n ∈ ["components", pascal name], Path.IsPlain n :=
  List.forall_mem_cons.mpr ⟨by decide, List.forall_mem_singleton.mpr (isPlain_pascal name)⟩

theorem isPlain_source (framework : Framework) (options : GenerationOptions) (c : Component) :
    (framework.source options c).IsPlain := by
  have folder := isPlain_componentFolder c.name
  have chars := isIdentifierChar_of_mem_pascal c.name
  refine List.forall_mem_append.mpr ?_
  cases framework with
  | react =>
    refine ⟨folder, List.forall_mem_singleton.mpr ?_⟩
    show Path.IsPlain (pascal c.name ++ if options.typescript then ".tsx" else ".jsx")
    split
    · exact isPlain_append chars (by decide) (by decide)
    · exact isPlain_append chars (by decide) (by decide)
  | vue =>
    refine ⟨folder, List.forall_mem_singleton.mpr ?_⟩
    exact isPlain_append chars (by decide) (by decide)
  | angular =>
    refine ⟨folder, List.forall_mem_singleton.mpr ?_⟩
    show Path.IsPlain (kebab c.name ++ ".component" ++ ".ts")
    rw [String.append_assoc]
    exact isPlain_append (isIdentifierChar_of_mem_kebab c.name) (by decide) (by decide)

theorem isPlain_globalFile (format : StyleFormat) (ts : List Token) :
    (format.globalFile ts).IsPlain := by
  cases format with
  | css => exact (by decide : ∀ name ∈ ["styles", "global.css"], Path.IsPlain name)
  | scss => exact (by decide : ∀ name ∈ ["styles", "global.scss"], Path.IsPlain name)
  | tailwind => exact (by decide : ∀ name ∈ ["tailwind.config.js"], Path.IsPlain name)

theorem isPlain_componentFile (format : StyleFormat) (c : Component) :
    (format.componentFile c).IsPlain := by
  have file : Path.IsPlain (pascal c.name ++ "." ++ format.extension) := by
    rw [String.append_assoc]
    have chars := isIdentifierChar_of_mem_pascal c.name
    cases format with
    | css => exact isPlain_append chars (by decide) (by decide)
    | scss => exact isPlain_append chars (by decide) (by decide)
    | tailwind => exact isPlain_append chars (by decide) (by decide)
  exact List.forall_mem_append.mpr
    ⟨(by decide : ∀ name ∈ ["styles", "components"], Path.IsPlain name),
      List.forall_mem_singleton.mpr file⟩

theorem isPlain_closingSource (options : GenerationOptions) (cs : List Component) :
    (closingSource options cs).IsPlain := by
  have index : (indexFile options cs).IsPlain := by
    refine List.forall_mem_singleton.mpr ?_
    show Path.IsPlain (if options.typescript then "index.ts" else "index.js")
    split <;> decide
  rw [closingSource]
  cases options.framework with
  | react => exact index
  | vue => exact index
  | angular => exact (by decide : ∀ name ∈ ["components.module.ts"], Path.IsPlain name)

/-- Whatever the components are called, the names of all files and folders of a project are
plain. -/
theorem isPlain_of_generate {options : GenerationOptions} {ts : List Token}
    {files : List GeneratedFile} (generated : (standardSession options).generate ts = .ok files) :
    ∀ f ∈ files, f.IsPlain := by
  have sources := options.framework.component_generator options
  have closes := closingFile_standardSession options (ts.filterMap Token.component?)
  rw [Session.generate_eq sources closes] at generated
  have raw : ∀ f ∈ options.styleFormat.globalFile (ts.filter (fun t => t.kind.isStyle))
      :: (ts.filterMap Token.component?).flatMap
        (fun c => [options.framework.source options c, options.styleFormat.componentFile c])
      ++ [closingSource options (ts.filterMap Token.component?)], f.IsPlain := by
    refine List.forall_mem_append.mpr ⟨List.forall_mem_cons.mpr ⟨isPlain_globalFile _ _, ?_⟩,
      List.forall_mem_singleton.mpr (isPlain_closingSource _ _)⟩
    intro f member
    obtain ⟨c, _, pair⟩ := List.mem_flatMap.mp member
    rcases List.mem_cons.mp pair with rfl | other
    · exact isPlain_source _ _ _
    · rw [List.mem_singleton.mp other]
      exact isPlain_componentFile _ _
  cases generated
  intro f member
  split at member
  · obtain ⟨g, inside, rfl⟩ := List.mem_map.mp member
    exact (raw g inside).tidied
  · exact raw f member

end DesignTokens
