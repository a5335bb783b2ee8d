import DesignTokens.Generation.Session
import DesignTokens.Proofs.Generation.Sources
import DesignTokens.Proofs.Naming.Identifier
import DesignTokens.Proofs.Text.Lines
import DesignTokens.Proofs.Text.Tidy

/-!
# Files of projects

A session over the generators of all frameworks has files for every list of
tokens: the stylesheet of the project, the source and the stylesheet of each
component in order, and the file that brings the components together.  Options
that ask for tidy files change nothing but the contents, each of which becomes
its tidy form.
-/

namespace DesignTokens

/-! ## Index files -/

theorem isTidyLine_exportLine (c : Component) : Text.IsTidyLine (exportLine c).toList := by
  refine ⟨("export \x7b " ++ Naming.pascal c.name ++ " \x7d from './components/"
    ++ Naming.pascal c.name ++ "'").toList, ';', ?_, by decide⟩
  simp [exportLine]

theorem lineFeed_not_mem_exportLine (c : Component) : '\n' ∉ (exportLine c).toList := by
  have name := Naming.lineFeed_not_mem_pascal c.name
  simp [exportLine, name]

/-- The index has one line for each component, tidied or not. -/
theorem lines_indexFile (options : GenerationOptions) (cs : List Component) :
    (indexFile options cs).tidied = indexFile options cs ∧
      Text.splitLines (indexFile options cs).content.toList
        = cs.map (fun c => (exportLine c).toList) ++ [[]] := by
  have single : ∀ l ∈ cs.map exportLine, '\n' ∉ l.toList :=
    List.forall_mem_map.mpr fun c _ => lineFeed_not_mem_exportLine c
  have tidy : ∀ l ∈ cs.map exportLine, Text.IsTidyLine l.toList :=
    List.forall_mem_map.mpr fun c _ => isTidyLine_exportLine c
  constructor
  · rw [GeneratedFile.tidied, indexFile, Text.tidy_unlines single tidy]
  · rw [indexFile, Text.toList_unlines,
      Text.splitLines_unlineChars (List.forall_mem_map.mpr single), List.map_map]
    rfl

/-! ## Sessions -/

namespace Session

/-- Where every component has a source, the files of components come in pairs. -/
theorem allComponentFiles_eq {s : Session} {source : Component → GeneratedFile}
    (sources : ∀ c, s.generator.component c = .ok (source c)) (cs : List Component) :
    s.allComponentFiles cs =
      .ok (cs.flatMap (fun c => [source c, s.styleFormat.componentFile c])) := by
  induction cs with
  | nil => rfl
  | cons c cs ih =>
    rw [allComponentFiles, componentFiles, sources, ih]
    rfl

/-- Where there also is a file that brings the components together, there are
files for every list of tokens. -/
theorem generate_eq {s : Session} {source : Component → GeneratedFile} {closing : GeneratedFile}
    {ts : List Token} (sources : ∀ c, s.generator.component c = .ok (source c))
    (closes : s.closingFile (ts.filterMap Token.component?) = .ok closing) :
    let raw := s.styleFormat.globalFile (ts.filter (fun t => t.kind.isStyle))
      :: (ts.filterMap Token.component?).flatMap
        (fun c => [source c, s.styleFormat.componentFile c])
      ++ [closing]
    s.generate ts = .ok (if s.options.formatOutput then raw.map GeneratedFile.tidied else raw) := by
  rw [generate, rawFiles, allComponentFiles_eq sources, closes]
  rfl

end Session

theorem length_filterMap_component? (ts : List Token) :
    (ts.filterMap Token.component?).length = ts.countP (fun t => t.kind = .component) := by
  rw [List.length_filterMap_eq_countP]
  refine List.countP_congr fun t _ => ?_
  rw [Token.component?, Token.kind]
  cases t.payload <;> simp [Payload.kind]

/-- The file that brings the components of a project together. -/
def closingSource (options : GenerationOptions) (cs : List Component) : GeneratedFile :=
  match options.framework with
  | .angular => Generator.Angular.moduleSource cs
  | .react | .vue => indexFile options cs

/-- The session that options start over the generators of all frameworks. -/
def standardSession (options : GenerationOptions) : Session :=
  ⟨options, .standard, options.framework.generator options, options.styleFormat⟩

theorem start_standard (options : GenerationOptions) :
    Session.start .standard options = .ok (standardSession options) := by
  rw [Session.start, Registry.create_standard]
  rfl

theorem closingFile_standardSession (options : GenerationOptions) (cs : List Component) :
    (standardSession options).closingFile cs = .ok (closingSource options cs) := by
  obtain ⟨framework, format, typescript, tidy⟩ := options
  cases framework with
  | angular =>
    show (do
      let file ← Generator.Angular.moduleFile Framework.angular.library cs
      return file.getD (indexFile _ cs)) = _
    rw [Generator.Angular.moduleFile_eq]
    rfl
  | react => rfl
  | vue => rfl

/-- The files of a project before they are tidied. -/
def projectFiles (options : GenerationOptions) (ts : List Token) : List GeneratedFile :=
  options.styleFormat.globalFile (ts.filter (fun t => t.kind.isStyle))
    :: (ts.filterMap Token.component?).flatMap
      (fun c => [options.framework.source options c, options.styleFormat.componentFile c])
    ++ [closingSource options (ts.filterMap Token.component?)]

theorem generate_standardSession (options : GenerationOptions) (ts : List Token) :
    (standardSession options).generate ts = .ok (if options.formatOutput then
      (projectFiles options ts).map GeneratedFile.tidied else projectFiles options ts) :=
  Session.generate_eq (options.framework.component_generator options)
    (closingFile_standardSession options _)

/-- The files of every list of tokens. -/
theorem start_bind_generate (options : GenerationOptions) (ts : List Token) :
    (Session.start .standard options >>= fun s => s.generate ts) = .ok (if options.formatOutput then
      (projectFiles options ts).map GeneratedFile.tidied else projectFiles options ts) := by
  rw [start_standard]
  exact generate_standardSession options ts

theorem length_componentFiles {cs : List Component} {source style : Component → GeneratedFile} :
    (cs.flatMap (fun c => [source c, style c])).length = 2 * cs.length := by
  simp [List.length_flatMap, Nat.mul_comm]

/-- Every list of tokens has its files, whatever the options: one stylesheet, two
files for each component that do not depend on the other components, and the
module of Angular or an index with one line for each component. -/
theorem generate_standard (options : GenerationOptions) (ts : List Token) :
    ∃ (s : Session) (source : Component → GeneratedFile) (closing : GeneratedFile),
      Session.start .standard options = .ok s ∧
      (∀ c, s.generator.component c = .ok (source c)) ∧
      let components := ts.filterMap Token.component?
      let raw := options.styleFormat.globalFile (ts.filter (fun t => t.kind.isStyle))
        :: components.flatMap (fun c => [source c, options.styleFormat.componentFile c])
        ++ [closing]
      s.generate ts = .ok (if options.formatOutput then raw.map GeneratedFile.tidied else raw) ∧
      raw.length = 2 * ts.countP (fun t => t.kind = .component) + 2 ∧
      match options.framework with
      | .angular => s.generator.moduleFile components = .ok (some closing) ∧ closing.kind = .module
      | .react | .vue =>
        closing.kind = .index ∧ closing.tidied = closing ∧
          Text.splitLines closing.content.toList
            = components.map (fun c => (exportLine c).toList) ++ [[]] := by
  have sources := options.framework.component_generator options
  refine ⟨standardSession options, options.framework.source options,
    closingSource options (ts.filterMap Token.component?), start_standard options, sources,
    ?_, ?_, ?_⟩
  · exact Session.generate_eq sources (closingFile_standardSession options _)
  · rw [List.length_append, List.length_cons, length_componentFiles, length_filterMap_component?]
    rfl
  · rw [closingSource]
    have index := lines_indexFile options (ts.filterMap Token.component?)
    cases framework : options.framework with
    | angular =>
      refine ⟨?_, rfl⟩
      show (options.framework.generator options).moduleFile _ = _
      rw [framework]
      exact Generator.Angular.moduleFile_eq _
    | react => exact ⟨rfl, index⟩
    | vue => exact ⟨rfl, index⟩

/-! ## Tidy files -/

namespace Session

variable (s : Session)

theorem allComponentFiles_options (options : GenerationOptions) (cs : List Component) :
    { s with options }.allComponentFiles cs = s.allComponentFiles cs := by
  induction cs with
  | nil => rfl
  | cons c cs ih =>
    rw [allComponentFiles, allComponentFiles, ih]
    rfl

theorem rawFiles_formatOutput (format : Bool) (ts : List Token) :
    { s with options.formatOutput := format }.rawFiles ts = s.rawFiles ts := by
  rw [rawFiles, rawFiles, allComponentFiles_options]
  rfl

/-- Whatever the generator, tidying is what is done last. -/
theorem generate_formatOutput (ts : List Token) :
    { s with options.formatOutput := true }.generate ts =
      ({ s with options.formatOutput := false }.generate ts).map
        (List.map GeneratedFile.tidied) := by
  rw [generate, generate, s.rawFiles_formatOutput true, s.rawFiles_formatOutput false]
  cases s.rawFiles ts <;> rfl

end Session

theorem projectFiles_formatOutput (options : GenerationOptions) (format : Bool) (ts : List Token) :
    projectFiles { options with formatOutput := format } ts = projectFiles options ts := by
  obtain ⟨framework, format', typescript, tidy⟩ := options
  cases framework <;> rfl

/-- Every text has just one tidy form, which tidying finds and leaves alone.  Projects that are to
be tidy have the same files as others with the tidy forms of their contents. -/
theorem tidy_normalizes :
    (∀ text tidied : String,
      Text.IsTidyForm text.toList tidied.toList ↔ tidied = Text.tidy text) ∧
    (∀ text : String, Text.tidy (Text.tidy text) = Text.tidy text) ∧
    let tidied (file : GeneratedFile) := { file with content := Text.tidy file.content }
    (∀ (options : GenerationOptions) (ts : List Token), ∃ files,
      (Session.start .standard { options with formatOutput := false } >>= fun s => s.generate ts)
        = .ok files ∧
      (Session.start .standard { options with formatOutput := true } >>= fun s => s.generate ts)
        = .ok (files.map tidied)) ∧
    ∀ (s : Session) (ts : List Token),
      { s with options.formatOutput := true }.generate ts =
        ({ s with options.formatOutput := false }.generate ts).map (List.map tidied) := by
  refine ⟨fun text tidied => ?_, fun text => ?_, fun options ts => ?_,
    Session.generate_formatOutput⟩
  · rw [Text.isTidyForm_iff, ← String.toList_inj, Text.tidy, String.toList_ofList]
  · rw [Text.tidy, Text.tidy, String.toList_ofList, Text.tidyChars_tidyChars]
  · refine ⟨projectFiles options ts, ?_, ?_⟩
    · rw [start_bind_generate, projectFiles_formatOutput]
      rfl
    · rw [start_bind_generate, projectFiles_formatOutput]
      rfl

end DesignTokens
