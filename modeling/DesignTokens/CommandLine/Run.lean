import DesignTokens.CommandLine.Command
import DesignTokens.Design.Document
import DesignTokens.Export.Request
import DesignTokens.Extraction.Walk
import DesignTokens.Generation.Session
import DesignTokens.History.Log

/-!
# Carrying out commands

A command reads files, works on what they hold, and writes files or prints.

Key definitions:

* `CommandError` lists why a command fails.
* `Command.run` carries out a command.
* `Outcome` is what the user sees of it.
-/

namespace DesignTokens

/-! ## Errors -/

/-- Why a command fails. -/
inductive CommandError where
  | read (path : String) (cause : FileError)
  | write (path : String) (cause : FileError)
  | json (path : String)
  | extraction (cause : DocumentError)
  | generation (cause : GenerationError)
  | unsupportedFormat (name : String)
  | history (cause : HistoryError)
deriving Repr, DecidableEq

namespace CommandError

/-- What failed. -/
def summary : CommandError → String
  | .read path _ => "Error reading " ++ path
  | .write path _ => "Error writing " ++ path
  | .json path => "Invalid JSON in " ++ path
  | .extraction cause => "Extraction error: " ++ cause.message
  | .generation cause => "Codegen error: " ++ cause.message
  | .unsupportedFormat name => "Export error: Unsupported export format: " ++ name
  | .history cause => "History error: " ++ cause.message

/-- What failed, with the reason that the system gives. -/
def message : CommandError → String
  | .read path cause => (CommandError.read path cause).summary ++ ": " ++ cause.message
  | .write path cause => (CommandError.write path cause).summary ++ ": " ++ cause.message
  | e => e.summary

end CommandError

/-! ## Files -/

/-- What a command prints: its result, and a note for the user. -/
structure Printed where
  result : String
  note : String
deriving Repr, DecidableEq

/-- A result on a line of its own. -/
def Printed.ofResult (text : String) : Printed := ⟨text ++ "\n", ""⟩

/-- A note on a line of its own. -/
def Printed.ofNote (text : String) : Printed := ⟨"", text ++ "\n"⟩

namespace Command

variable {m : Type → Type} [Monad m] [MonadFiles m]

/-- Reads an input file. -/
def readInput (path : String) : ExceptT CommandError m String := do
  match ← (readText path : m (Except FileError String)) with
  | .ok text => return text
  | .error cause => throw (.read path cause)

/-- Reads a value from an input file. -/
def readValue {α : Type} [OfJson α] (path : String) : ExceptT CommandError m α := do
  let text ← readInput path
  match (Json.read? text).bind ofJson? with
  | some x => return x
  | none => throw (.json path)

/-- Makes a folder for an output file. -/
def prepareFolder (path : String) : ExceptT CommandError m Unit := do
  match ← (makeFolders path : m (Except FileError Unit)) with
  | .ok () => return
  | .error cause => throw (.write path cause)

/-- Writes an output file. -/
def writeFile (path text : String) : ExceptT CommandError m Unit := do
  match ← (writeText path text : m (Except FileError Unit)) with
  | .ok () => return
  | .error cause => throw (.write path cause)

/-- Writes a result to a file, or prints it if there is none. -/
def output (path : Option String) (text : String) : ExceptT CommandError m Printed := do
  match path with
  | none => return .ofResult text
  | some path =>
    match Path.parent? path with
    | some parent => prepareFolder parent
    | none => pure ()
    writeFile path text
    return .ofNote ("Wrote: " ++ path)

/-! ## Extraction -/

/-- Reads a document and extracts its tokens. -/
def extractFrom (path : String) (options : ExtractionOptions) :
    ExceptT CommandError m (List Token) := do
  let text ← readInput path
  match Document.ofText? text with
  | .ok document => return DesignTokens.extract options document
  | .error cause => throw (.extraction cause)

/-- Extracts tokens, or the token set of them. -/
def runExtract (c : ExtractCommand) : ExceptT CommandError m Printed := do
  let tokens ← extractFrom c.path ⟨c.deep, c.usageMetadata⟩
  let result := if c.tokenSet then toJson (TokenSet.ofTokens tokens) else toJson tokens
  output c.output result.pretty

/-! ## Generation -/

/-- Passes on the outcome of a generation. -/
def generated {α : Type} : Except GenerationError α → ExceptT CommandError m α
  | .ok x => return x
  | .error cause => throw (.generation cause)

/-- The options that a command asks for. -/
def generationOptions (c : GenerateCommand) : Except GenerationError GenerationOptions := do
  let framework ← match Alternatives.ofText? c.framework with
    | some framework => .ok framework
    | none => .error (.unsupportedFramework c.framework)
  let styleFormat ← match Alternatives.ofText? c.style with
    | some styleFormat => .ok styleFormat
    | none => .error (.unsupportedStyleFormat c.style)
  return { framework, styleFormat, typescript := c.typescript, formatOutput := c.format }

/-- Writes generated files below a folder. -/
def writeFiles (folder : String) : List GeneratedFile → ExceptT CommandError m Unit
  | [] => return
  | file :: files => do
    let inner := file.path.foldl Path.join folder
    prepareFolder inner
    writeFile (Path.join inner file.fileName) file.content
    writeFiles folder files

/-- Generates files from tokens or from a document. -/
def runGenerate (c : GenerateCommand) : ExceptT CommandError m Printed := do
  let options ← generated (generationOptions c)
  let tokens ← if c.document then extractFrom c.path .shallow else readValue c.path
  let session ← generated (Session.start .standard options)
  let files ← generated (session.generate tokens)
  writeFiles c.folder files
  return .ofNote ("Generated " ++ Decimal.wholeText files.length ++ " files in " ++ c.folder)

/-! ## Export -/

/-- Exports a token set. -/
def runExport (c : ExportCommand) : ExceptT CommandError m Printed := do
  match (Alternatives.ofText? c.format : Option ExportFormat) with
  | none => throw (.unsupportedFormat c.format)
  | some format =>
    let tokens : TokenSet ← readValue c.path
    output c.output (tokens.exported format)

/-! ## History -/

/-- Passes on the outcome of an operation on a history. -/
def recorded {α : Type} (x : ExceptT HistoryError m α) : ExceptT CommandError m α := do
  match ← x.run with
  | .ok a => return a
  | .error cause => throw (.history cause)

/-- A version in a list of versions. -/
def summaryJson (v : Version) : Json := .obj
  [("id", toJson v.id), ("timestamp", toJson v.timestamp), ("description", toJson v.description),
    ("fileId", toJson v.fileId), ("entries", .num (.whole v.tokens.size))]

/-- Works on the history in a folder.  `stamp` is for a version that is new. -/
def runHistory (stamp : Stamp) (folder : String) (c : HistoryCommand) :
    ExceptT CommandError m Printed := do
  let store : Store m := .folder folder
  match c with
  | .save path fileId description =>
    let tokens : TokenSet ← readValue path
    recorded (History.setCurrent store tokens)
    let version ← recorded (History.save store stamp tokens fileId description)
    return .ofResult version.id
  | .list =>
    let versions ← recorded (History.versions store)
    return .ofResult (Json.arr (versions.map summaryJson)).pretty
  | .show id =>
    let version ← recorded (History.get store id)
    return .ofResult (toJson version.tokens).pretty
  | .diff oldId newId =>
    let changes ← recorded (History.compare store oldId newId)
    return .ofResult (toJson changes).pretty
  | .revert id =>
    let reverted ← recorded (History.revert store stamp id)
    return .ofResult (toJson reverted.tokens).pretty

/-! ## Commands -/

/-- Carries out a command. -/
def run (stamp : Stamp) : Command → ExceptT CommandError m Printed
  | .extract c => runExtract c
  | .generate c => runGenerate c
  | .exportSet c => runExport c
  | .history folder c => runHistory stamp folder c

end Command

/-! ## Outcomes -/

/-- What the user sees of a command line. -/
inductive Outcome where
  | refused (reason : Refusal)
  | failed (cause : CommandError)
  | done (printed : Printed)
deriving Repr, DecidableEq

/-- The exit code of an outcome. -/
def Outcome.code : Outcome → UInt32
  | .refused .wrong => 2
  | .refused _ => 0
  | .failed _ => 1
  | .done _ => 0

/-- The version of the program. -/
def programVersion : String := "tokenforge 0.1.0"

/-- How the program is used. -/
def usage : String :=
  Text.unlines
    ["Usage: tokenforge [OPTIONS] <COMMAND>",
      "",
      "Commands:",
      "  extract   Extract tokens from a design document",
      "  generate  Generate components and stylesheets from a token list",
      "  export    Export a token set",
      "  history   Inspect and edit token set history"]

/-- What an outcome prints to the standard output. -/
def Outcome.result : Outcome → String
  | .refused .help => usage
  | .refused .version => programVersion ++ "\n"
  | .done printed => printed.result
  | _ => ""

/-- What an outcome prints to the standard error. -/
def Outcome.note : Outcome → String
  | .refused .wrong => usage
  | .failed cause => "Error: " ++ cause.message ++ "\n"
  | .done printed => printed.note
  | _ => ""

/-- Carries out a command line. -/
def runArguments {m : Type → Type} [Monad m] [MonadFiles m] (stamp : Stamp)
    (arguments : List String) : m Outcome := do
  match Command.ofArguments arguments with
  | .error reason => return .refused reason
  | .ok command =>
    match ← (Command.run stamp command).run with
    | .ok printed => return .done printed
    | .error cause => return .failed cause

end DesignTokens
