import DesignTokens.CommandLine.Arguments

/-!
# Commands

Key definitions:

* `Command` is what a command line asks for.
* `Command.ofArguments` reads a command line.
-/

namespace DesignTokens

/-- What to do with the history of a token set. -/
inductive HistoryCommand where
  | save (path fileId description : String)
  | list
  | show (id : String)
  | diff (oldId newId : String)
  | revert (id : String)
deriving Repr, DecidableEq

/-- How to extract tokens. -/
structure ExtractCommand where
  path : String
  deep : Bool
  usageMetadata : Bool
  tokenSet : Bool
  output : Option String
deriving Repr, DecidableEq

/-- How to generate files. -/
structure GenerateCommand where
  path : String
  document : Bool
  framework : String
  style : String
  typescript : Bool
  format : Bool
  folder : String
deriving Repr, DecidableEq

/-- How to export a token set. -/
structure ExportCommand where
  path : String
  format : String
  output : Option String
deriving Repr, DecidableEq

/-- What a command line asks for. -/
inductive Command where
  | extract (c : ExtractCommand)
  | generate (c : GenerateCommand)
  | exportSet (c : ExportCommand)
  | history (folder : String) (c : HistoryCommand)
deriving Repr, DecidableEq

namespace Command

open Arguments

/-! ## Options -/

/-- The options of every command. -/
def commonOptions : List OptionSpec :=
  [⟨"verbose", some 'v', .nothing⟩, ⟨"help", some 'h', .nothing⟩]

/-- The options before the name of a command. -/
def mainOptions : List OptionSpec := commonOptions ++ [⟨"version", some 'V', .nothing⟩]

/-- The options of an extraction. -/
def extractOptions : List OptionSpec :=
  commonOptions ++
    [⟨"deep", .none, .nothing⟩, ⟨"usage-metadata", .none, .nothing⟩,
      ⟨"token-set", .none, .nothing⟩, ⟨"output", some 'o', .path⟩]

/-- The options of a generation. -/
def generateOptions : List OptionSpec :=
  commonOptions ++
    [⟨"document", .none, .nothing⟩, ⟨"framework", .none, .text⟩, ⟨"style", .none, .text⟩,
      ⟨"no-typescript", .none, .nothing⟩, ⟨"no-format", .none, .nothing⟩,
      ⟨"out-dir", some 'o', .path⟩]

/-- The options of an export. -/
def exportOptions : List OptionSpec :=
  commonOptions ++ [⟨"format", some 'f', .text⟩, ⟨"output", some 'o', .path⟩]

/-- The options of all commands on histories. -/
def historyOptions : List OptionSpec := commonOptions ++ [⟨"store", .none, .path⟩]

/-- The options of saving a version. -/
def saveOptions : List OptionSpec :=
  commonOptions ++ [⟨"file-id", .none, .text⟩, ⟨"description", some 'd', .text⟩]

/-! ## Reading -/

/-- Reads the arguments of an extraction. -/
def ofExtract (arguments : List String) : Except Refusal Command := do
  let a ← scan extractOptions (.words [.path]) .none arguments
  match a.words with
  | [path] => return .extract {
      path
      deep := a.has "deep"
      usageMetadata := a.has "usage-metadata"
      tokenSet := a.has "token-set"
      output := a.value? "output" }
  | _ => .error .wrong

/-- Reads the arguments of a generation. -/
def ofGenerate (arguments : List String) : Except Refusal Command := do
  let a ← scan generateOptions (.words [.path]) .none arguments
  match a.words with
  | [path] => return .generate {
      path
      document := a.has "document"
      framework := (a.value? "framework").getD "react"
      style := (a.value? "style").getD "css"
      typescript := !a.has "no-typescript"
      format := !a.has "no-format"
      folder := (a.value? "out-dir").getD "generated" }
  | _ => .error .wrong

/-- Reads the arguments of an export. -/
def ofExport (arguments : List String) : Except Refusal Command := do
  let a ← scan exportOptions (.words [.path]) .none arguments
  match a.words with
  | [path] => return .exportSet {
      path
      format := (a.value? "format").getD "css"
      output := a.value? "output" }
  | _ => .error .wrong

/-- Reads the arguments of saving a version. -/
def ofSave (arguments : List String) : Except Refusal HistoryCommand := do
  let a ← scan saveOptions (.words [.path]) .none arguments
  match a.words with
  | [path] => return .save path ((a.value? "file-id").getD "") ((a.value? "description").getD "")
  | _ => .error .wrong

/-- Reads the arguments of a command that has no options of its own and takes a
number of texts. -/
def texts (count : Nat) (arguments : List String) : Except Refusal (List String) := do
  let a ← scan commonOptions (.words (List.replicate count .text)) .none arguments
  return a.words

/-- The names of the commands on histories. -/
def historyNames : List String := ["help", "save", "list", "show", "diff", "revert"]

/-- The names of the commands. -/
def mainNames : List String := ["help", "extract", "generate", "export", "history"]

/-- What the arguments of a request for help come to: at most one of the names
may stand there. -/
def helpOn (names : List String) : List String → Refusal
  | [] => .help
  | [name] => if names.contains name then .help else .wrong
  | _ => .wrong

/-- Reads what to do with a history. -/
def ofHistoryWord (word : String) (arguments : List String) : Except Refusal HistoryCommand := do
  match word with
  | "save" => ofSave arguments
  | "list" =>
    let _ ← texts 0 arguments
    return .list
  | "show" =>
    match ← texts 1 arguments with
    | [id] => return .show id
    | _ => .error .wrong
  | "diff" =>
    match ← texts 2 arguments with
    | [oldId, newId] => return .diff oldId newId
    | _ => .error .wrong
  | "revert" =>
    match ← texts 1 arguments with
    | [id] => return .revert id
    | _ => .error .wrong
  | "help" => .error (helpOn historyNames arguments)
  | _ => .error .wrong

/-- Reads the arguments of a command on a history. -/
def ofHistory (arguments : List String) : Except Refusal Command := do
  let a ← scan historyOptions (.commands historyNames) .none arguments
  match a.words with
  | [word] => do
    let c ← ofHistoryWord word a.rest
    return .history ((a.value? "store").getD ".tokenforge") c
  | _ => .error .wrong

/-- Reads a command line. -/
def ofArguments (arguments : List String) : Except Refusal Command := do
  let a ← scan mainOptions (.commands mainNames) .none arguments
  match a.words with
  | ["extract"] => ofExtract a.rest
  | ["generate"] => ofGenerate a.rest
  | ["export"] => ofExport a.rest
  | ["history"] => ofHistory a.rest
  | ["help"] =>
    match a.rest with
    | "history" :: names => .error (helpOn historyNames names)
    | names => .error (helpOn mainNames names)
  | _ => .error .wrong

end Command

end DesignTokens
