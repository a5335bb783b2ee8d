import DesignTokens.Generation.Registry
import DesignTokens.Generation.StyleFiles

/-!
# Generating projects

The files of a project come in a fixed order: the stylesheet of the project,
then for each component its source and its stylesheet, then the file that
brings the components together.

Key definitions:

* `Session` holds options with the generator that fits them.
* `Session.generate` writes the files of a list of tokens.
* `GenerationRequest` is a request from outside, and `GenerationResponse` the
  answer.
-/

namespace DesignTokens

/-! ## Files of a project -/

/-- The line of the index that exports a component. -/
def exportLine (c : Component) : String :=
  let name := Naming.pascal c.name
  "export \x7b " ++ name ++ " \x7d from './components/" ++ name ++ "';"

/-- The file that exports all components. -/
def indexFile (options : GenerationOptions) (cs : List Component) : GeneratedFile where
  fileName := if options.typescript then "index.ts" else "index.js"
  content := Text.unlines (cs.map exportLine)
  kind := .index
  path := []

/-- A file with its content tidied. -/
def GeneratedFile.tidied (f : GeneratedFile) : GeneratedFile :=
  { f with content := Text.tidy f.content }

/-! ## Sessions -/

/-- Options with the registry, the generator that was built for them and the syntax of
the stylesheets that goes with it. -/
structure Session where
  options : GenerationOptions
  registry : Registry
  generator : Generator
  styleFormat : StyleFormat

namespace Session

/-- Starts a session. -/
def start (registry : Registry) (options : GenerationOptions) :
    Except GenerationError Session := do
  let generator ← registry.create options
  return { options, registry, generator, styleFormat := options.styleFormat }

/-- Changes the options, and with them the generator and the syntax of the
stylesheets. -/
def setOptions (options : GenerationOptions) : ExceptT GenerationError (StateM Session) Unit := do
  -- Building the generator is what may fail, so it comes before the first change.
  let generator ← (← get).registry.create options
  modify fun s => { s with generator }
  modify fun s => { s with styleFormat := options.styleFormat }
  modify fun s => { s with options }

/-- The source and the stylesheet of a component. -/
def componentFiles (s : Session) (c : Component) : Except GenerationError (List GeneratedFile) := do
  let source ← s.generator.component c
  return [source, s.styleFormat.componentFile c]

/-- The files of several components. -/
def allComponentFiles (s : Session) :
    List Component → Except GenerationError (List GeneratedFile)
  | [] => .ok []
  | c :: cs => do
    let files ← s.componentFiles c
    let rest ← allComponentFiles s cs
    return files ++ rest

/-- The file that brings the components together: that of the framework, or an
index. -/
def closingFile (s : Session) (cs : List Component) : Except GenerationError GeneratedFile := do
  let file ← s.generator.moduleFile cs
  return file.getD (indexFile s.options cs)

/-- The files of a list of tokens before they are tidied. -/
def rawFiles (s : Session) (ts : List Token) : Except GenerationError (List GeneratedFile) := do
  let styles := ts.filter (fun t => t.kind.isStyle)
  let components := ts.filterMap Token.component?
  let sources ← s.allComponentFiles components
  let closing ← s.closingFile components
  return s.styleFormat.globalFile styles :: sources ++ [closing]

/-- The files of a list of tokens. -/
def generate (s : Session) (ts : List Token) : Except GenerationError (List GeneratedFile) := do
  let files ← s.rawFiles ts
  return if s.options.formatOutput then files.map GeneratedFile.tidied else files

end Session

/-! ## Requests -/

/-- A request for the files of a list of tokens. -/
structure GenerationRequest where
  tokens : List Token
  options : GenerationOptions
deriving Repr, BEq

/-- The answer to a request. -/
structure GenerationResponse where
  files : List GeneratedFile
deriving Repr, DecidableEq

instance : ToJson GenerationResponse := ⟨fun r => .obj [("files", toJson r.files)]⟩

instance : OfJson GenerationResponse where
  ofJson? j := do
    let fields ← j.record? [Json.field "files"]
    let files ← Json.required? fields "files"
    return { files }

namespace GenerationRequest

instance : ToJson GenerationRequest where
  toJson r := .obj [("tokens", toJson r.tokens), ("options", toJson r.options)]

/-- Options that are left out are the standard ones. -/
instance : OfJson GenerationRequest where
  ofJson? j := do
    let fields ← j.record? [Json.field "tokens", Json.field "options"]
    let tokens ← Json.required? fields "tokens"
    let options ← Json.orElse? fields "options" GenerationOptions.standard
    return { tokens, options }

/-- Answers a request. -/
def handle (r : GenerationRequest) : Except GenerationError GenerationResponse := do
  let session ← Session.start .standard r.options
  let files ← session.generate r.tokens
  return { files }

end GenerationRequest

end DesignTokens
