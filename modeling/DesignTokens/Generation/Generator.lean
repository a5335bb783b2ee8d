import DesignTokens.Generation.File
import DesignTokens.Generation.Options
import DesignTokens.Generation.UtilityClasses
import DesignTokens.Template.Reader
import DesignTokens.Text.Lines

/-!
# Generators

A generator writes the source file of a component for one framework, and the
file that brings the components together if the framework has one.

Key definitions:

* `GenerationError` lists what may go wrong.
* `Generator` is the type of generators.
* `Generator.register` and `Generator.fill` read and fill their templates.
-/

namespace DesignTokens

/-- Why files cannot be generated. -/
inductive GenerationError where
  | unsupportedFramework (name : String)
  | unsupportedStyleFormat (name : String)
  | template (cause : TemplateError)
  | invalidTemplate (cause : TemplateError)
deriving Repr, DecidableEq

/-- The description of an error. -/
def GenerationError.message : GenerationError → String
  | .unsupportedFramework name => "Unsupported framework: " ++ name
  | .unsupportedStyleFormat name => "Unsupported style format: " ++ name
  | .template cause => "Template error: " ++ cause.message
  | .invalidTemplate cause => "Invalid template: " ++ cause.message

/-- Writes the files of one framework. -/
structure Generator where
  /-- The source file of a component. -/
  component : Component → Except GenerationError GeneratedFile
  /-- The file that declares all components, if there is one. -/
  moduleFile : List Component → Except GenerationError (Option GeneratedFile)

namespace Generator

/-- Reads the text of a template and adds it under a name. -/
def register (library : TemplateLibrary) (name text : String) :
    Except GenerationError TemplateLibrary :=
  match library.register name text with
  | .ok more => .ok more
  | .error cause => .error (.invalidTemplate cause)

/-- Fills the template with a name. -/
def fill (library : TemplateLibrary) (name : String) (data : List (String × String)) :
    Except GenerationError String :=
  match library.render name (.obj (data.map (fun d => (d.1, .str d.2)))) with
  | .ok text => .ok text
  | .error cause => .error (.template cause)

/-- Where a source file finds the stylesheet of its component. -/
def styleImport (component extension : String) : String :=
  "../../styles/components/" ++ component ++ "." ++ extension

/-- A text in single quotes. -/
def singleQuoted (text : String) : String := "'" ++ text ++ "'"

/-- The class names of a component in quotes: its own, and those of its layout
if there are any. -/
def quotedClasses (scheme : UtilityScheme) (c : Component) : String :=
  let layout := c.styles.layout.classes scheme
  ", ".intercalate <|
    [singleQuoted (Naming.kebab c.name)]
      ++ (if layout.isEmpty then [] else [singleQuoted layout])

/-- Whether a component shows text. -/
def hasText (c : Component) : Bool := c.styles.typography.isSome

end Generator

end DesignTokens
