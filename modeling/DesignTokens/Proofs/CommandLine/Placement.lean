import DesignTokens.Proofs.CommandLine.Pipeline
import DesignTokens.Proofs.Generation.Apart

/-!
# Generated files that stay

A generation writes one file after the other.  Where the identifiers of the
components differ, no file takes the place of another one, so that in the end
all of them are there with their contents.

Key definitions: `GeneratedFile.below`, `FileTree.KeepsText`.
-/

namespace DesignTokens

open Fallible

/-- The path of a file below a folder. -/
def GeneratedFile.below (f : GeneratedFile) (folder : String) : String :=
  f.parts.foldl Path.join folder

namespace FileTree

variable {t t' t'' home : FileTree} {path other text new : String}

/-! ## Texts that stay -/

/-- Folders that come up leave files alone. -/
theorem read_of_addsFolders (adds : AddsFolders t t') (found : t.read path = .ok text) :
    t'.read path = .ok text := by
  obtain ⟨located, file⟩ := read_eq_ok found
  refine read_of_file (adds.keepsFolders.locate located) ?_
  rcases adds.entries (t.placeOf path) with same | ⟨nothing, _⟩
  · rw [same, file]
  · rw [nothing] at file
    cases file

/-- A file that is written leaves the files in other places alone. -/
theorem read_of_write_elsewhere (written : t.write other new = .ok t')
    (elsewhere : t.placeOf path ≠ t.placeOf other) (found : t.read path = .ok text) :
    t'.read path = .ok text := by
  obtain ⟨located, file⟩ := read_eq_ok found
  obtain ⟨_, inside, notFolder, rfl⟩ := write_eq_ok written
  have keeps := keepsFolders_put_file inside notFolder new.toUTF8
  refine read_of_file (keeps.locate located) ?_
  rw [entry?_put inside, if_neg elsewhere, file]

/-- Whether a step leaves the text of a file, whenever relative paths start where they start in
the tree `home`. -/
def KeepsText (home : FileTree) (path text : String) (t t' : FileTree) : Prop :=
  t.current = home.current → t.read path = .ok text →
    t'.current = home.current ∧ t'.read path = .ok text

theorem KeepsText.refl (t : FileTree) : KeepsText home path text t t := fun same found =>
  ⟨same, found⟩

theorem KeepsText.trans (first : KeepsText home path text t t')
    (second : KeepsText home path text t' t'') : KeepsText home path text t t'' := by
  intro same found
  obtain ⟨same', found'⟩ := first same found
  exact second same' found'

theorem placeOf_of_current (same : t.current = home.current) (path : String) :
    t.placeOf path = home.placeOf path := by
  rw [placeOf, placeOf, start_of_current same]

/-! ## Steps -/

theorem keepsText_prepareFolder (folder : String) :
    Moves (KeepsText home path text) (Command.prepareFolder folder : Command.OnTree Unit) := by
  intro t same found
  rw [Command.run_prepareFolder]
  have adds := addsFolders_makeFolders folder t
  exact ⟨adds.current.trans same, read_of_addsFolders adds found⟩

theorem keepsText_writeFile (elsewhere : home.placeOf path ≠ home.placeOf other) :
    Moves (KeepsText home path text) (Command.writeFile other new : Command.OnTree Unit) := by
  intro t same found
  have change : ((writeText other new : StateM FileTree (Except FileError Unit)) t)
      = t.change (t.write other new) := rfl
  rw [Command.run_writeFile, change]
  cases written : t.write other new with
  | error e => exact ⟨same, found⟩
  | ok t' =>
    rw [← placeOf_of_current same, ← placeOf_of_current same] at elsewhere
    obtain ⟨_, _, _, put⟩ := write_eq_ok written
    refine ⟨?_, read_of_write_elsewhere written elsewhere found⟩
    show t'.current = home.current
    rw [put]
    exact same

end FileTree

namespace Command

open FileTree

variable {folder : String} {files before after : List GeneratedFile} {t t' : FileTree}

theorem below_eq (f : GeneratedFile) (folder : String) :
    f.below folder = Path.join (f.path.foldl Path.join folder) f.fileName := by
  rw [GeneratedFile.below, GeneratedFile.parts, List.foldl_append]
  rfl

/-- Files leave a text alone that stands in none of their places. -/
theorem keepsText_writeFiles {home : FileTree} {path : String} (text : String)
    (elsewhere : ∀ f ∈ files, home.placeOf path ≠ home.placeOf (f.below folder)) :
    Moves (KeepsText home path text) (writeFiles folder files : OnTree Unit) := by
  induction files with
  | nil => exact moves_of_still .refl fun _ => rfl
  | cons file files ih =>
    rw [List.forall_mem_cons, below_eq] at elsewhere
    refine Moves.bind .trans (keepsText_prepareFolder _) fun _ _ => ?_
    exact Moves.bind .trans (keepsText_writeFile elsewhere.1) fun _ _ => ih elsewhere.2

theorem writeFiles_append (folder : String) (before after : List GeneratedFile) :
    (writeFiles folder (before ++ after) : OnTree Unit)
      = writeFiles folder before >>= fun _ => writeFiles folder after := by
  induction before with
  | nil => simp [writeFiles]
  | cons file files ih => simp [writeFiles, ih]

/-- Where all files have places of their own, those that were written stay as they are, whatever
becomes of the others. -/
theorem read_of_writeFiles {home : FileTree} (current : t.current = home.current)
    (apart : ((before ++ after).map (fun f => home.placeOf (f.below folder))).Nodup)
    (written : (writeFiles folder before : OnTree Unit).run t = (.ok (), t')) :
    ∀ f ∈ before,
      ((writeFiles folder after : OnTree Unit).run t').2.read (f.below folder) = .ok f.content := by
  induction before generalizing t with
  | nil => simp
  | cons file before ih =>
    rw [List.cons_append, List.map_cons, List.nodup_cons] at apart
    rw [writeFiles] at written
    -- The first file takes two steps, its folder and the file itself.
    obtain ⟨_, t₁, folders, written⟩ := run_bind_eq_ok written
    obtain ⟨_, t₂, wrote, written⟩ := run_bind_eq_ok written
    have adds := addsFolders_makeFolders (file.path.foldl Path.join folder) t
    rw [prepareFolder_eq_ok folders] at adds
    have write := writeFile_eq_ok wrote
    have current₁ : t₁.current = home.current := adds.current.trans current
    have current₂ : t₂.current = home.current := by
      obtain ⟨_, _, _, put⟩ := write_eq_ok write
      rw [put]
      exact current₁
    refine List.forall_mem_cons.mpr ⟨?_, ih current₂ apart.2 written⟩
    -- No other file is written in its place.
    have elsewhere : ∀ f ∈ before ++ after,
        home.placeOf (file.below folder) ≠ home.placeOf (f.below folder) := by
      intro f member same
      exact apart.1 (List.mem_map.mpr ⟨f, member, same.symm⟩)
    have found : t₂.read (file.below folder) = .ok file.content := by
      rw [below_eq]
      exact read_of_write write
    have rest := keepsText_writeFiles file.content elsewhere t₂ current₂ found
    rw [writeFiles_append, run_bind_ok written] at rest
    exact rest.2

/-! ## Commands -/

/-- The tokens that a command works on. -/
def tokensOf (c : GenerateCommand) (t : FileTree) : Except CommandError (List Token) :=
  if c.document then tokensIn c.path .shallow t else valueIn (List Token) c.path t

theorem run_runGenerate_of_tokens {c : GenerateCommand} {ts : List Token}
    (found : tokensOf c t = .ok ts) :
    (runGenerate c : OnTree Printed).run t = (generateFrom c ts).run t := by
  apply run_runGenerate
  rw [tokensOf] at found
  split at found
  · rename_i document
    rw [if_pos document, run_extractFrom, found]
  · rename_i document
    rw [if_neg document, run_readValue, found]

theorem state_placeFiles (folder : String) (files : List GeneratedFile) (t : FileTree) :
    ((placeFiles folder files).run t).2 = ((writeFiles folder files : OnTree Unit).run t).2 := by
  rw [placeFiles]
  cases written : (writeFiles folder files : OnTree Unit).run t with
  | mk outcome t' =>
    cases outcome with
    | error e => rw [run_bind_error written]
    | ok _ =>
      rw [run_bind_ok written]
      rfl

/-- The files below a folder have places of their own if their paths differ. -/
theorem nodup_places (folder : String) (plain : ∀ f ∈ files, f.IsPlain)
    (apart : (files.map GeneratedFile.parts).Nodup) (t : FileTree) :
    (files.map (fun f => t.placeOf (f.below folder))).Nodup := by
  have places : files.map (fun f => t.placeOf (f.below folder))
      = (files.map GeneratedFile.parts).map (t.placeOf folder ++ ·) := by
    rw [List.map_map]
    exact List.map_congr_left fun f member => placeOf_foldl_join (plain f member) t folder
  rw [places]
  exact apart.map (List.append_right_injective _)

end Command

/-- The files of a project have different paths just if the identifiers of its components differ.
Then each of them has a place of its own below the folder of a command: what is written stays,
even if a later file cannot be written, and after a success all of them are there. -/
theorem files_apart_iff_names_apart (ts : List Token) :
    (∀ options, ∃ files, (Session.start .standard options >>= fun s => s.generate ts) = .ok files ∧
      ((files.map GeneratedFile.relativePath).Nodup ↔ (componentNames ts).Nodup)) ∧
    ((componentNames ts).Nodup → ∀ (c : GenerateCommand) (options : GenerationOptions)
        (t : FileTree), Command.generationOptions c = .ok options → Command.tokensOf c t = .ok ts →
      ∃ files, (Session.start .standard options >>= fun s => s.generate ts) = .ok files ∧
        (files.map (fun f => t.placeOf (f.below c.folder))).Nodup ∧
        let generation : Command.OnTree Printed := Command.runGenerate c
        (∀ printed t', generation.run t = (.ok printed, t') →
          ∀ f ∈ files, t'.read (f.below c.folder) = .ok f.content) ∧
        ∀ before after t₁, files = before ++ after →
          (Command.writeFiles c.folder before : Command.OnTree Unit).run t = (.ok (), t₁) →
          ∀ f ∈ before, (generation.run t).2.read (f.below c.folder) = .ok f.content) := by
  constructor
  · intro options
    obtain ⟨files, written, plain, apart⟩ := exists_files_nodup_iff options ts
    exact ⟨files, written, (nodup_relativePath_iff plain).trans apart⟩
  · intro names c options t asked found
    obtain ⟨files, generated, plain, apart⟩ := exists_files_nodup_iff options ts
    have places := Command.nodup_places c.folder plain (apart.mpr names) t
    have known : c.filesOf ts = .ok files := by
      rw [GenerateCommand.filesOf, asked]
      exact generated
    have comes : (Command.runGenerate c : Command.OnTree Printed).run t
        = (Command.placeFiles c.folder files).run t := by
      rw [Command.run_runGenerate_of_tokens found, Command.generateFrom, known]
      rfl
    refine ⟨files, generated, places, ?_, ?_⟩
    · intro printed t' done f member
      rw [comes, Command.placeFiles] at done
      obtain ⟨_, _, written, finished⟩ := run_bind_eq_ok done
      cases finished
      -- Behind the last file nothing more is written.
      have all : ∀ f ∈ files, ((Command.writeFiles c.folder [] : Command.OnTree Unit).run
          t').2.read (f.below c.folder) = .ok f.content :=
        Command.read_of_writeFiles rfl (by rwa [List.append_nil]) written
      exact all f member
    · intro before after t₁ split written f member
      subst split
      rw [comes, Command.state_placeFiles, Command.writeFiles_append, run_bind_ok written]
      exact Command.read_of_writeFiles rfl places written f member

/-- Two components whose names have nothing in common but a letter. -/
def pairTokens : List Token :=
  ["a b", "a"].map fun name => ⟨"1", name, [], .component (.bare name), none⟩

/-- A folder with these components in a file. -/
def pairFolder : FileTree :=
  FileTree.empty.put ["pair.json"] (.file (toJson pairTokens).compact.toUTF8)

theorem tokensOf_pairFolder : Command.tokensOf
    ⟨"pair.json", false, "react", "css", true, false, "out"⟩ pairFolder = .ok pairTokens := by
  have finite : IsFinite pairTokens :=
    List.forall_mem_map.mpr fun _ _ => ⟨Appearance.isFinite_standard, trivial⟩
  have back := readsBack finite
  have text : (Json.read? (toJson pairTokens).compact).bind ofJson? = some pairTokens := by
    have lossless : (toJson pairTokens).IsLossless := by decide
    rw [Json.read?_compact back.sound (by decide), Json.reread_of_isLossless lossless,
      Option.bind_some]
    exact back.back false
  have located : pairFolder.locate "pair.json" = .ok ["pair.json"] := rfl
  have read : pairFolder.read "pair.json" = .ok (toJson pairTokens).compact :=
    FileTree.read_of_file located (by rw [pairFolder, FileTree.entry?_put (by decide), if_pos rfl])
  rw [Command.tokensOf, if_neg Bool.false_ne_true]
  exact Command.valueIn_eq_ok read text

theorem files_apart_iff_names_apart_pairFolder :
    let c : GenerateCommand := ⟨"pair.json", false, "react", "css", true, false, "out"⟩
    (componentNames pairTokens).Nodup ∧
      ∃ files t',
        (Session.start .standard ⟨.react, .css, true, false⟩ >>= fun s => s.generate pairTokens)
            = .ok files ∧
          (Command.runGenerate c : Command.OnTree Printed).run pairFolder
            = (.ok (.ofNote "Generated 6 files in out"), t') ∧
          ∀ f ∈ files, t'.read (f.below "out") = .ok f.content := by
  intro c
  have names : (componentNames pairTokens).Nodup := by decide +kernel
  have asked : Command.generationOptions c = .ok ⟨.react, .css, true, false⟩ := by decide +kernel
  obtain ⟨files, generated, _, all, _⟩ := (files_apart_iff_names_apart pairTokens).2 names c _
    pairFolder asked tokensOf_pairFolder
  have done : ((Command.generateFrom c pairTokens).run pairFolder).1
      = .ok (.ofNote "Generated 6 files in out") := by decide +kernel
  cases comes : (Command.generateFrom c pairTokens).run pairFolder with
  | mk outcome t' =>
    rw [comes] at done
    cases done
    have run : (Command.runGenerate c : Command.OnTree Printed).run pairFolder
        = (.ok (.ofNote "Generated 6 files in out"), t') :=
      (Command.run_runGenerate_of_tokens tokensOf_pairFolder).trans comes
    exact ⟨names, files, t', generated, run, all _ _ run⟩

end DesignTokens
