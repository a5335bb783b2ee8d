import DesignTokens.Json.Record

/-!
# Generated files

Key definitions: `FileKind`, `GeneratedFile`, `GeneratedFile.relativePath`.
-/

namespace DesignTokens

/-- The kinds of generated files. -/
inductive FileKind where
  | component
  | style
  | index
  | module
deriving Repr, DecidableEq

instance : Alternatives FileKind where
  all := [.component, .style, .index, .module]
  name
    | .component => "component"
    | .style => "style"
    | .index => "index"
    | .module => "module"

/-- A generated file.  Its path has the names of the folders that lead to it
from the root of the output. -/
structure GeneratedFile where
  fileName : String
  content : String
  kind : FileKind
  path : List String
deriving Repr, DecidableEq

namespace GeneratedFile

/-- The parts of the path of a file, its name included. -/
def parts (f : GeneratedFile) : List String := f.path ++ [f.fileName]

/-- The path of a file from the root of the output. -/
def relativePath (f : GeneratedFile) : String := "/".intercalate f.parts

/-- The fields of a file. -/
def knownFields : List Json.Field :=
  [Json.field "fileName", Json.field "content", Json.field "type", Json.field "path"]

instance : ToJson GeneratedFile where
  toJson f := .obj
    [("fileName", toJson f.fileName), ("content", toJson f.content), ("type", toJson f.kind),
      ("path", toJson f.path)]

instance : OfJson GeneratedFile where
  ofJson? j := do
    let fields ← j.record? knownFields
    let fileName ← Json.required? fields "fileName"
    let content ← Json.required? fields "content"
    let kind ← Json.required? fields "type"
    let path ← Json.required? fields "path"
    return { fileName, content, kind, path }

end GeneratedFile

end DesignTokens
