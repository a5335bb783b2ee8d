import DesignTokens.CommandLine.Run
import DesignTokens.Proofs.Computation
import DesignTokens.Proofs.Generation.Paths

/-!
# Where generated files go

Files are written below the folder of the command.  Outside it nothing changes,
but that the folder itself and those around it are made where they are missing.
-/

namespace DesignTokens

open Fallible

variable {α : Type}

/-! ## What the steps of a command leave alone -/

namespace Command

/-- A computation of the command line on a tree of files. -/
abbrev OnTree (α : Type) := ExceptT CommandError (StateM FileTree) α

theorem run_readInput (path : String) (t : FileTree) :
    (readInput path : OnTree String).run t = (match t.read path with
      | .ok text => .ok text
      | .error cause => .error (.read path cause), t) := by
  have read : (readText path : StateM FileTree (Except FileError String)) t
      = (t.read path, t) := rfl
  have run : (readInput path : OnTree String).run t = _ := run_lift_bind (readText path) _ t
  rw [run, read]
  cases t.read path <;> rfl

/-- The value that an input file has. -/
def valueIn (α : Type) [OfJson α] (path : String) (t : FileTree) : Except CommandError α :=
  match t.read path with
  | .error cause => .error (.read path cause)
  | .ok text =>
    match (Json.read? text).bind ofJson? with
    | some x => .ok x
    | none => .error (.json path)

theorem run_readValue [OfJson α] (path : String) (t : FileTree) :
    (readValue path : OnTree α).run t = (valueIn α path t, t) := by
  have first := run_readInput path t
  rw [readValue, valueIn]
  cases read : t.read path with
  | error cause =>
    rw [read] at first
    exact run_bind_error first
  | ok text =>
    rw [read] at first
    rw [run_bind_ok first]
    simp only
    cases ((Json.read? text).bind ofJson? : Option α) <;> rfl

/-- The tokens of the document that an input file has. -/
def tokensIn (path : String) (options : ExtractionOptions) (t : FileTree) :
    Except CommandError (List Token) :=
  match t.read path with
  | .error cause => .error (.read path cause)
  | .ok text =>
    match Document.ofText? text with
    | .ok document => .ok (DesignTokens.extract options document)
    | .error cause => .error (.extraction cause)

theorem run_extractFrom (path : String) (options : ExtractionOptions) (t : FileTree) :
    (extractFrom path options : OnTree (List Token)).run t = (tokensIn path options t, t) := by
  have first := run_readInput path t
  rw [extractFrom, tokensIn]
  cases read : t.read path with
  | error cause =>
    rw [read] at first
    exact run_bind_error first
  | ok text =>
    rw [read] at first
    rw [run_bind_ok first]
    simp only
    cases Document.ofText? text <;> rfl

theorem eq_ok_of_gives {outcome : Except GenerationError α} {a : α}
    (gives : Gives (generated outcome : OnTree α) a) : outcome = .ok a := by
  obtain ⟨t, given⟩ := gives
  cases outcome with
  | error cause => cases given
  | ok x =>
    cases given
    rfl

theorem generated_still (outcome : Except GenerationError α) (t : FileTree) :
    ((generated outcome : OnTree α).run t).2 = t := by
  cases outcome <;> rfl

theorem run_prepareFolder (path : String) (t : FileTree) :
    ((prepareFolder path : OnTree Unit).run t).2
      = ((makeFolders path : StateM FileTree (Except FileError Unit)) t).2 := by
  have run : (prepareFolder path : OnTree Unit).run t = _ := run_lift_bind (makeFolders path) _ t
  rw [run]
  cases (makeFolders path : StateM FileTree (Except FileError Unit)) t with
  | mk outcome t' => cases outcome <;> rfl

theorem run_writeFile (path text : String) (t : FileTree) :
    ((writeFile path text : OnTree Unit).run t).2
      = ((writeText path text : StateM FileTree (Except FileError Unit)) t).2 := by
  have run : (writeFile path text : OnTree Unit).run t = _ :=
    run_lift_bind (writeText path text) _ t
  rw [run]
  cases (writeText path text : StateM FileTree (Except FileError Unit)) t with
  | mk outcome t' => cases outcome <;> rfl

end Command

/-! ## Below a folder -/

namespace FileTree

/-- Whether a place lies inside the folder that a path leads to. -/
def IsInside (t : FileTree) (folder : String) (place : List String) : Prop :=
  ∃ names, names ≠ [] ∧ place = t.placeOf folder ++ names

/-- A step that keeps below a folder, whenever relative paths start where they start in the tree
`home`. -/
def StaysBelow (home : FileTree) (folder : String) (t t' : FileTree) : Prop :=
  t.current = home.current → ChangesOnly (home.IsOnTheWay folder) (home.IsInside folder) t t'

namespace StaysBelow

variable {home t t' t'' : FileTree} {folder : String}

theorem refl (t : FileTree) : StaysBelow home folder t t := fun _ => .refl t

theorem trans (first : StaysBelow home folder t t') (second : StaysBelow home folder t' t'') :
    StaysBelow home folder t t'' := by
  intro same
  have early := first same
  exact early.trans (second (early.current.trans same))

end StaysBelow

variable {segments : List String}

theorem start_foldl_join {segments : List String} (plain : ∀ name ∈ segments, Path.IsPlain name)
    (t : FileTree) (folder : String) :
    t.start (segments.foldl Path.join folder) = t.start folder := by
  induction segments generalizing folder with
  | nil => rfl
  | cons name rest ih =>
    rw [List.forall_mem_cons] at plain
    have relative := Path.isAbsolute_eq_false plain.1.noSlash
    rw [List.foldl_cons, ih plain.2, start, start, Path.isAbsolute_join folder relative]

theorem placeOf_foldl_join (plain : ∀ name ∈ segments, Path.IsPlain name) (t : FileTree)
    (folder : String) :
    t.placeOf (segments.foldl Path.join folder) = t.placeOf folder ++ segments := by
  rw [placeOf_eq, placeOf_eq, start_foldl_join plain, Path.names_foldl_join plain,
    List.foldl_append, foldl_follow_plain plain]

/-- On the way to a folder inside another one lie the places on the way to the outer folder, and
places inside it. -/
theorem isOnTheWay_foldl_join (plain : ∀ name ∈ segments, Path.IsPlain name) {t : FileTree}
    {folder : String} {place : List String}
    (way : t.IsOnTheWay (segments.foldl Path.join folder) place) :
    t.IsOnTheWay folder place ∨ t.IsInside folder place := by
  obtain ⟨names, first, here⟩ := way
  rw [Path.names_foldl_join plain] at first
  rw [start_foldl_join plain] at here
  rcases List.prefix_or_prefix_of_prefix first (List.prefix_append _ segments) with outer | inner
  · exact .inl ⟨names, outer, here⟩
  · obtain ⟨more, rfl⟩ := inner
    have part : more <+: segments := (List.prefix_append_right_inj _).mp first
    rw [List.foldl_append, foldl_follow_plain fun name member => plain name (part.subset member)]
      at here
    cases more with
    | nil =>
      refine .inl ⟨Path.names folder, List.prefix_rfl, ?_⟩
      rw [here, List.append_nil]
    | cons name rest => exact .inr ⟨_, List.cons_ne_nil name rest, by rw [here, placeOf_eq]⟩

/-! ## Steps -/

variable {home : FileTree} {folder : String}

theorem staysBelow_prepareFolder (plain : ∀ name ∈ segments, Path.IsPlain name) :
    Moves (StaysBelow home folder)
      (Command.prepareFolder (segments.foldl Path.join folder) : Command.OnTree Unit) := by
  intro t same
  rw [Command.run_prepareFolder]
  apply (changesOnly_makeFolders t _).mono
  · intro place way
    exact isOnTheWay_foldl_join plain (isOnTheWay_of_current same way)
  · exact fun _ impossible => impossible.elim

theorem staysBelow_writeFile (plain : ∀ name ∈ segments, Path.IsPlain name) (inside : segments ≠ [])
    (text : String) :
    Moves (StaysBelow home folder)
      (Command.writeFile (segments.foldl Path.join folder) text : Command.OnTree Unit) := by
  intro t same
  rw [Command.run_writeFile]
  apply (changesOnly_write t _ text).mono
  · exact fun _ impossible => impossible.elim
  · intro place here
    refine ⟨segments, inside, ?_⟩
    rw [here, placeOf_foldl_join plain, placeOf, placeOf, start, start, same]

end FileTree

namespace Command

open FileTree

/-- Files with plain names are written below the folder, each in turn. -/
theorem staysBelow_writeFiles {home : FileTree} {folder : String} {files : List GeneratedFile}
    (plain : ∀ f ∈ files, f.IsPlain) :
    Moves (StaysBelow home folder) (writeFiles folder files : OnTree Unit) := by
  induction files with
  | nil => exact moves_of_still .refl fun _ => rfl
  | cons file files ih =>
    rw [List.forall_mem_cons] at plain
    have path : ∀ name ∈ file.path, Path.IsPlain name := fun name member =>
      plain.1 name (List.mem_append_left _ member)
    have parts : (file.path ++ [file.fileName]).foldl Path.join folder
        = Path.join (file.path.foldl Path.join folder) file.fileName := by
      rw [List.foldl_append]
      rfl
    refine Moves.bind .trans (staysBelow_prepareFolder path) fun _ _ => ?_
    refine Moves.bind .trans ?_ fun _ _ => ih plain.2
    rw [← parts]
    exact staysBelow_writeFile plain.1 (List.concat_ne_nil _ _) file.content

/-- The last steps of a generation, when the options and the tokens are there. -/
def writeProject (c : GenerateCommand) (options : GenerationOptions) (tokens : List Token) :
    OnTree Printed := do
  let session ← generated (Session.start .standard options)
  let files ← generated (session.generate tokens)
  writeFiles c.folder files
  return .ofNote ("Generated " ++ Decimal.wholeText files.length ++ " files in " ++ c.folder)

theorem runGenerate_eq (c : GenerateCommand) :
    (runGenerate c : OnTree Printed) = generated (generationOptions c) >>= fun options =>
      (if c.document then extractFrom c.path .shallow else readValue c.path)
        >>= writeProject c options := by
  rw [runGenerate]
  congr
  funext options
  cases c.document <;> rfl

theorem staysBelow_writeProject (home : FileTree) (c : GenerateCommand)
    (options : GenerationOptions) (tokens : List Token) :
    Moves (StaysBelow home c.folder) (writeProject c options tokens) := by
  refine Moves.bind .trans (moves_of_still .refl (generated_still _)) fun session started => ?_
  refine Moves.bind .trans (moves_of_still .refl (generated_still _)) fun files written => ?_
  have start := eq_ok_of_gives started
  rw [start_standard] at start
  cases start
  have plain := isPlain_of_generate (eq_ok_of_gives written)
  exact Moves.bind .trans (staysBelow_writeFiles plain) fun _ _ => moves_of_still .refl fun _ => rfl

theorem staysBelow_runGenerate (home : FileTree) (c : GenerateCommand) :
    Moves (StaysBelow home c.folder) (runGenerate c : OnTree Printed) := by
  rw [runGenerate_eq]
  refine Moves.bind .trans (moves_of_still .refl (generated_still _)) fun options _ => ?_
  refine Moves.bind .trans (moves_of_still .refl ?_) fun tokens _ =>
    staysBelow_writeProject home c options tokens
  intro t
  split
  · rw [run_extractFrom]
  · rw [run_readValue]

end Command

/-! ## Generated files -/

/-- No name of a component leads out of the folder.  Every list of tokens has files, and all
names on their paths are plain.  So a generation changes nothing outside its folder: where the
folder is missing, only the folders on the way to it come up. -/
theorem generated_files_stay_inside :
    (∀ (options : GenerationOptions) (ts : List Token), ∃ s files,
      Session.start .standard options = .ok s ∧ s.generate ts = .ok files ∧
        ∀ f ∈ files, ∀ name ∈ f.path ++ [f.fileName], Path.IsPlain name) ∧
    ∀ (c : GenerateCommand) (t : FileTree),
      let t' := ((Command.runGenerate c : Command.OnTree Printed).run t).2
      t.ChangesOnly (t.IsOnTheWay c.folder) (t.IsInside c.folder) t' ∧
        (t.isFolder c.folder = true → ∀ place, ¬ t.IsInside c.folder place →
          t'.entry? place = t.entry? place) := by
  constructor
  · intro options ts
    have sources := options.framework.component_generator options
    have closes := closingFile_standardSession options (ts.filterMap Token.component?)
    have written := Session.generate_eq sources closes
    exact ⟨standardSession options, _, start_standard options, written, isPlain_of_generate written⟩
  · intro c t t'
    have changes : t.ChangesOnly (t.IsOnTheWay c.folder) (t.IsInside c.folder) t' :=
      Command.staysBelow_runGenerate t c t rfl
    refine ⟨changes, fun there place outside => ?_⟩
    rcases changes.entries place with inside | same | ⟨way, nothing, _⟩
    · exact absurd inside outside
    · exact same
    -- Nothing is missing on the way to a folder that is there.
    · rw [FileTree.entry?_of_isOnTheWay there way] at nothing
      cases nothing

/-- Components with names that would lead somewhere else if they were paths. -/
def escapingTokens : List Token :=
  ["../../x", ".", "a/b", ""].map fun name => ⟨"1", name, [], .component (.bare name), none⟩

/-- A folder with these components in a file and an empty folder beside it. -/
def escapingFolder : FileTree :=
  (FileTree.empty.put ["tokens.json"] (.file (toJson escapingTokens).compact.toUTF8)).put
    ["out"] .folder

theorem generated_files_stay_inside_escapingFolder :
    (∃ s files, Session.start .standard .standard = .ok s ∧ s.generate escapingTokens = .ok files ∧
      ∀ f ∈ files, ∀ name ∈ f.path ++ [f.fileName], Path.IsPlain name) ∧
    let c : GenerateCommand := ⟨"tokens.json", false, "react", "css", true, true, "out"⟩
    let after := ((Command.runGenerate c : Command.OnTree Printed).run escapingFolder).2
    ∀ place, ¬ escapingFolder.IsInside "out" place →
      after.entry? place = escapingFolder.entry? place := by
  refine ⟨generated_files_stay_inside.1 .standard escapingTokens, ?_⟩
  intro c after
  exact (generated_files_stay_inside.2 c escapingFolder).2 (by decide)

end DesignTokens
