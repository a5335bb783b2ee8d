import DesignTokens.Proofs.CommandLine.Writing
import DesignTokens.Proofs.Extraction.Finite
import DesignTokens.Proofs.Files.Parallel

/-!
# Commands that work on each other's files

An extraction leaves a file, and a generation or an export goes on from it.  The
file holds everything that the next command looks at, so that the two commands
come to the same as working on the document at once.
-/

namespace DesignTokens

open Fallible Json

/-! ## What is behind a success -/

namespace Command

variable {t t' a b a' b' : FileTree} {path text : String}

theorem prepareFolder_eq_ok (done : (prepareFolder path : OnTree Unit).run t = (.ok (), t')) :
    (makeFolders path : StateM FileTree (Except FileError Unit)) t = (.ok (), t') := by
  have run : (prepareFolder path : OnTree Unit).run t = _ := run_lift_bind (makeFolders path) _ t
  rw [run] at done
  cases made : (makeFolders path : StateM FileTree (Except FileError Unit)) t with
  | mk outcome between =>
    rw [made] at done
    cases outcome with
    | error e => cases done
    | ok _ =>
      cases done
      rfl

theorem writeFile_eq_ok (done : (writeFile path text : OnTree Unit).run t = (.ok (), t')) :
    t.write path text = .ok t' := by
  have run : (writeFile path text : OnTree Unit).run t = _ :=
    run_lift_bind (writeText path text) _ t
  have change : (writeText path text : StateM FileTree (Except FileError Unit)) t
      = t.change (t.write path text) := rfl
  rw [run, change] at done
  cases written : t.write path text with
  | error e =>
    rw [written] at done
    cases done
  | ok between =>
    rw [written] at done
    cases done
    rfl

/-- An output file that was written holds its text. -/
theorem output_eq_ok {printed : Printed}
    (done : (output (some path) text : OnTree Printed).run t = (.ok printed, t')) :
    t'.current = t.current ∧ t'.read path = .ok text := by
  have behind {between : FileTree} (same : between.current = t.current) {note : Printed}
      (rest : (writeFile path text >>= fun _ => pure note : OnTree Printed).run between
        = (.ok printed, t')) : t'.current = t.current ∧ t'.read path = .ok text := by
    obtain ⟨_, after, written, finished⟩ := run_bind_eq_ok rest
    cases finished
    have write := writeFile_eq_ok written
    refine ⟨?_, FileTree.read_of_write write⟩
    obtain ⟨_, _, _, rfl⟩ := FileTree.write_eq_ok write
    exact same
  rw [output] at done
  cases parent : Path.parent? path with
  | none =>
    rw [parent] at done
    exact behind rfl done
  | some folder =>
    rw [parent] at done
    obtain ⟨_, between, prepared, done⟩ := run_bind_eq_ok (x := prepareFolder folder) done
    -- A folder for the file adds folders only, and leaves the current one where it is.
    have adds := FileTree.addsFolders_makeFolders folder t
    rw [prepareFolder_eq_ok prepared] at adds
    exact behind adds.current done

/-! ## Files in two trees -/

/-- Writing the same files changes two trees in the same way. -/
theorem sameChanges_writeFiles {folder : String} {files : List GeneratedFile}
    (same : a.current = b.current)
    (left : (writeFiles folder files : OnTree Unit).run a = (.ok (), a'))
    (right : (writeFiles folder files : OnTree Unit).run b = (.ok (), b')) :
    a.SameChanges b a' b' := by
  induction files generalizing a b with
  | nil =>
    cases left
    cases right
    exact .refl _ _
  | cons file files ih =>
    rw [writeFiles] at left right
    -- Each file takes three steps: its folder, the file itself, and the files behind it.
    obtain ⟨_, a₁, folderLeft, left⟩ := run_bind_eq_ok left
    obtain ⟨_, b₁, folderRight, right⟩ := run_bind_eq_ok right
    have folders := FileTree.sameChanges_makeFolders same (prepareFolder_eq_ok folderLeft)
      (prepareFolder_eq_ok folderRight)
    have same₁ : a₁.current = b₁.current := by rw [folders.current.1, folders.current.2, same]
    obtain ⟨_, a₂, fileLeft, left⟩ := run_bind_eq_ok left
    obtain ⟨_, b₂, fileRight, right⟩ := run_bind_eq_ok right
    have written := FileTree.sameChanges_write same₁ (writeFile_eq_ok fileLeft)
      (writeFile_eq_ok fileRight)
    have same₂ : a₂.current = b₂.current := by rw [written.current.1, written.current.2, same₁]
    exact (folders.trans written).trans (ih same₂ left right)

end Command

/-! ## Commands on what is in memory -/

/-- The document that an extraction comes to. -/
def ExtractCommand.resultOf (c : ExtractCommand) (document : Node) : Json :=
  let tokens := extract ⟨c.deep, c.usageMetadata⟩ document
  if c.tokenSet then toJson (TokenSet.ofTokens tokens) else toJson tokens

/-- The files that a command generates from tokens. -/
def GenerateCommand.filesOf (c : GenerateCommand) (tokens : List Token) :
    Except GenerationError (List GeneratedFile) := do
  let options ← Command.generationOptions c
  let session ← Session.start .standard options
  session.generate tokens

namespace Command

/-- Writes the files of a generation and tells of it. -/
def placeFiles (folder : String) (files : List GeneratedFile) : OnTree Printed := do
  writeFiles folder files
  return .ofNote ("Generated " ++ Decimal.wholeText files.length ++ " files in " ++ folder)

/-- Carries out a generation from tokens. -/
def generateFrom (c : GenerateCommand) (tokens : List Token) : OnTree Printed :=
  generated (c.filesOf tokens) >>= placeFiles c.folder

/-- Carries out an export of a token set. -/
def exportFrom (c : ExportCommand) (tokens : TokenSet) : OnTree Printed :=
  match (Alternatives.ofText? c.format : Option ExportFormat) with
  | none => throw (.unsupportedFormat c.format)
  | some format => output c.output (tokens.exported format)

/-- Wherever the tokens come from, they alone decide about the files. -/
theorem run_runGenerate {c : GenerateCommand} {t : FileTree} {tokens : List Token}
    (found : (if c.document then extractFrom c.path .shallow else readValue c.path :
      OnTree (List Token)).run t = (.ok tokens, t)) :
    (runGenerate c : OnTree Printed).run t = (generateFrom c tokens).run t := by
  rw [runGenerate_eq, generateFrom, GenerateCommand.filesOf]
  cases generationOptions c with
  | error e => rfl
  | ok options =>
    have next : ((if c.document then extractFrom c.path .shallow else readValue c.path)
        >>= writeProject c options).run t = (writeProject c options tokens).run t :=
      run_bind_ok found
    refine Eq.trans next ?_
    show (writeProject c options tokens).run t
      = (generated (Session.start .standard options >>= fun s => s.generate tokens)
        >>= placeFiles c.folder).run t
    rw [writeProject]
    cases Session.start .standard options with
    | error e => rfl
    | ok session => rfl

theorem run_runExport {c : ExportCommand} {t : FileTree} {tokens : TokenSet}
    (found : valueIn TokenSet c.path t = .ok tokens) :
    (runExport c : OnTree Printed).run t = (exportFrom c tokens).run t := by
  rw [runExport, exportFrom]
  cases (Alternatives.ofText? c.format : Option ExportFormat) with
  | none => rfl
  | some format =>
    apply run_bind_ok
    rw [run_readValue, found]

theorem sameChanges_generateFrom {c : GenerateCommand} {tokens : List Token}
    {a b a' b' : FileTree} {printed printed' : Printed} (same : a.current = b.current)
    (left : (generateFrom c tokens).run a = (.ok printed, a'))
    (right : (generateFrom c tokens).run b = (.ok printed', b')) :
    printed' = printed ∧ a.SameChanges b a' b' := by
  rw [generateFrom] at left right
  cases found : c.filesOf tokens with
  | error e =>
    rw [found] at left
    cases left
  | ok files =>
    rw [found] at left right
    obtain ⟨_, _, writtenLeft, left⟩ := run_bind_eq_ok (x := writeFiles c.folder files) left
    obtain ⟨_, _, writtenRight, right⟩ := run_bind_eq_ok (x := writeFiles c.folder files) right
    cases left
    cases right
    exact ⟨rfl, sameChanges_writeFiles same writtenLeft writtenRight⟩

/-! ## Extracted files -/

theorem tokensIn_eq_ok {path text : String} {document : Node} {t : FileTree}
    (given : t.read path = .ok text) (accepted : Document.ofText? text = .ok document)
    (options : ExtractionOptions) :
    tokensIn path options t = .ok (DesignTokens.extract options document) := by
  rw [tokensIn, given]
  simp only [accepted]

theorem valueIn_eq_ok {α : Type} [OfJson α] {path text : String} {x : α} {t : FileTree}
    (given : t.read path = .ok text) (back : (read? text).bind ofJson? = some x) :
    valueIn α path t = .ok x := by
  rw [valueIn, given]
  simp only [back]

theorem run_runExtract (c : ExtractCommand) {text : String} {document : Node} {t : FileTree}
    (given : t.read c.path = .ok text) (accepted : Document.ofText? text = .ok document) :
    (runExtract c : OnTree Printed).run t
      = (output c.output (c.resultOf document).pretty : OnTree Printed).run t := by
  rw [runExtract]
  apply run_bind_ok
  rw [run_extractFrom, tokensIn_eq_ok given accepted]

end Command

/-- Whatever document is accepted, the files of the command line hold all that is
needed of it, as long as the numbers in them come through.  A generation from the file of an
extraction goes on with the same files as one from the document, and where both succeed the trees
agree on everything that either of them changed.  An export of the file of a token set goes on as
one of the token set itself. -/
theorem file_pipeline_agrees {t : FileTree} {source text : String} {document : Node}
    (given : t.read source = .ok text) (accepted : Document.ofText? text = .ok document) :
    (∀ (path : String) (extracted : Printed) (t₁ : FileTree),
      (Command.runExtract ⟨source, false, false, false, some path⟩ : Command.OnTree Printed).run t
        = (.ok extracted, t₁) →
      (toJson (extract .shallow document)).depth ≤ depthLimit →
      (toJson (extract .shallow document)).IsLossless →
      ∀ c : GenerateCommand,
        let inMemory := Command.generateFrom c (extract .shallow document)
        let fromDocument : Command.OnTree Printed :=
          Command.runGenerate { c with path := source, document := true }
        let fromFile : Command.OnTree Printed :=
          Command.runGenerate { c with path := path, document := false }
        fromDocument.run t = inMemory.run t ∧ fromFile.run t₁ = inMemory.run t₁ ∧
          ∀ printed printed₁ t' t₁', fromDocument.run t = (.ok printed, t') →
            fromFile.run t₁ = (.ok printed₁, t₁') → printed₁ = printed ∧ t.SameChanges t₁ t' t₁') ∧
    ∀ (options : ExtractionOptions) (path : String) (extracted : Printed) (t₁ : FileTree),
      (Command.runExtract ⟨source, options.includeBlur, options.usageMetadata, true, some path⟩ :
        Command.OnTree Printed).run t = (.ok extracted, t₁) →
      (TokenSet.ofTokens (extract options document)).IsLossless →
      ∀ c : ExportCommand,
        (Command.runExport { c with path := path } : Command.OnTree Printed).run t₁
          = (Command.exportFrom c (TokenSet.ofTokens (extract options document))).run t₁ := by
  have finite := Document.isFinite_of_ofText? accepted
  constructor
  · intro path extracted t₁ done shallow lossless c inMemory fromDocument fromFile
    have extracts := Command.run_runExtract ⟨source, false, false, false, some path⟩ given accepted
    rw [extracts] at done
    obtain ⟨same, written⟩ := Command.output_eq_ok done
    have left : fromDocument.run t = inMemory.run t := by
      apply Command.run_runGenerate
      rw [if_pos rfl, Command.run_extractFrom, Command.tokensIn_eq_ok given accepted]
    have right : fromFile.run t₁ = inMemory.run t₁ := by
      apply Command.run_runGenerate
      have back := Token.read_pretty (isFinite_extract finite .shallow) lossless shallow
      rw [if_neg Bool.false_ne_true, Command.run_readValue, Command.valueIn_eq_ok written back]
    refine ⟨left, right, fun printed printed₁ t' t₁' first second => ?_⟩
    rw [left] at first
    rw [right] at second
    exact Command.sameChanges_generateFrom same.symm first second
  · intro options path extracted t₁ done lossless c
    have extracts := Command.run_runExtract
      ⟨source, options.includeBlur, options.usageMetadata, true, some path⟩ given accepted
    rw [extracts] at done
    obtain ⟨_, written⟩ := Command.output_eq_ok done
    have back := read_pretty_tokenSet_iff.mpr lossless
    exact Command.run_runExport (Command.valueIn_eq_ok written back)

/-- The document of a card that is laid out in a column. -/
def cardFile : Json :=
  .obj [("itemSpacing", .num (.whole 12)), ("layoutMode", .str "VERTICAL"), ("name", .str "Card"),
    ("type", .str "FRAME")]

/-- The card of that document. -/
def columnCard : Node :=
  ⟨{ Attributes.bare "Card" .frame with
      layoutMode := some .vertical
      itemSpacing := some (Decimal.floatOfInt 12) }, []⟩

/-- A folder with the document in a file. -/
def cardFolder : FileTree := FileTree.empty.put ["card.json"] (.file cardFile.compact.toUTF8)

theorem read_cardFolder : cardFolder.read "card.json" = .ok cardFile.compact := by
  have located : cardFolder.locate "card.json" = .ok ["card.json"] := rfl
  exact FileTree.read_of_file located rfl

theorem ofText?_cardFile : Document.ofText? cardFile.compact = .ok columnCard := by
  have sound : IsSound cardFile := ⟨⟨by decide, by decide⟩, trivial, trivial, trivial, trivial⟩
  have value : cardFile.value? = some cardFile := rfl
  have faultless : Document.IsFaultless (Document.root cardFile) := by
    rw [← @Document.firstFault?_eq_none_iff [], Document.firstFault?_eq]
    rfl
  have lossless : cardFile.IsLossless := by decide +kernel
  rw [Document.ofText?, readValue?, read?_compact sound (by decide),
    reread_of_isLossless lossless, Option.bind_some, value]
  show Document.ofValue? cardFile = _
  rw [Document.ofValue?_of_isFaultless faultless, Document.ofJson?_eq]
  rfl

theorem file_pipeline_agrees_cardFolder :
    let c : GenerateCommand := ⟨"card.json", true, "react", "css", true, true, "out"⟩
    let note := Printed.ofNote "Generated 2 files in out"
    let tokens := TokenSet.ofTokens (extract .shallow columnCard)
    (∃ t₁ t' t₁' : FileTree,
      (Command.runExtract ⟨"card.json", false, false, false, some "tokens.json"⟩ :
        Command.OnTree Printed).run cardFolder = (.ok (.ofNote "Wrote: tokens.json"), t₁) ∧
      (Command.runGenerate c : Command.OnTree Printed).run cardFolder = (.ok note, t') ∧
      (Command.runGenerate { c with path := "tokens.json", document := false } :
        Command.OnTree Printed).run t₁ = (.ok note, t₁') ∧ cardFolder.SameChanges t₁ t' t₁') ∧
    ∃ t₁ : FileTree,
      (Command.runExtract ⟨"card.json", false, false, true, some "set.json"⟩ :
        Command.OnTree Printed).run cardFolder = (.ok (.ofNote "Wrote: set.json"), t₁) ∧
      (Command.runExport ⟨"set.json", "css", none⟩ : Command.OnTree Printed).run t₁
        = (.ok (.ofResult (tokens.exported .css)), t₁) := by
  intro c note tokens
  obtain ⟨generations, exports⟩ := file_pipeline_agrees read_cardFolder ofText?_cardFile
  -- A pair is known by what is printed and by the tree that is left, whatever it may hold.
  have pair {x : Command.OnTree Printed} {t : FileTree} {printed : Printed}
      (first : (x.run t).1 = .ok printed) : x.run t = (.ok printed, (x.run t).2) :=
    Prod.ext first rfl
  constructor
  · let written : Command.OnTree Printed :=
      Command.output (some "tokens.json") (toJson (extract .shallow columnCard)).pretty
    have extracted : (Command.runExtract ⟨"card.json", false, false, false, some "tokens.json"⟩ :
        Command.OnTree Printed).run cardFolder = written.run cardFolder :=
      Command.run_runExtract _ read_cardFolder ofText?_cardFile
    have done := extracted.trans
      (pair (by decide +kernel : _ = Except.ok (Printed.ofNote "Wrote: tokens.json")))
    obtain ⟨left, right, agree⟩ :=
      generations _ _ _ done (by decide +kernel) (by decide +kernel) c
    have inMemory := left.trans (pair (by decide +kernel : _ = Except.ok note))
    have fromFile := right.trans (pair (by decide +kernel : _ = Except.ok note))
    exact ⟨_, _, _, done, inMemory, fromFile, (agree _ _ _ _ inMemory fromFile).2⟩
  · let written : Command.OnTree Printed :=
      Command.output (some "set.json") (toJson tokens).pretty
    have extracted : (Command.runExtract ⟨"card.json", false, false, true, some "set.json"⟩ :
        Command.OnTree Printed).run cardFolder = written.run cardFolder :=
      Command.run_runExtract _ read_cardFolder ofText?_cardFile
    have done := extracted.trans
      (pair (by decide +kernel : _ = Except.ok (Printed.ofNote "Wrote: set.json")))
    have exported := exports .shallow _ _ _ done (by decide +kernel) ⟨"set.json", "css", none⟩
    have known : (Alternatives.ofText? "css" : Option ExportFormat) = some .css := by decide +kernel
    simp only [Command.exportFrom, known] at exported
    exact ⟨_, done, exported⟩

end DesignTokens
