/-!
# Paths of files

A path is a text with slashes between the names of folders.

Key definitions: `Path.names`, `Path.join`, `Path.parent?`, `Path.parents`.
-/

namespace DesignTokens.Path

/-! ## Names -/

/-- The parts between the slashes of a text. -/
def parts : List Char → List (List Char)
  | [] => [[]]
  | c :: cs =>
    if c = '/' then [] :: parts cs
    else
      match parts cs with
      | [] => [[c]]
      | p :: ps => (c :: p) :: ps

/-- The names on the way along a path. -/
def names (path : String) : List String :=
  ((parts path.toList).map String.ofList).filter (fun name => name != "")

/-- The names on the way into a path.  Behind a slash at the end stands the folder
itself, which is called by a single point. -/
def namesInto (path : String) : List String :=
  names path ++ (if path.toList.getLast? = some '/' then ["."] else [])

/-- Whether a path starts at the root. -/
def isAbsolute (path : String) : Bool := path.toList.head? = some '/'

/-! ## Joining -/

/-- The path of a name inside a folder.  An absolute path stands for itself. -/
def join (folder name : String) : String :=
  if isAbsolute name || folder = "" then name
  else if folder.toList.getLast? = some '/' then folder ++ name
  else folder ++ "/" ++ name

/-! ## Parents -/

/-- Drops slashes, and single points behind a slash, from the end of a path.
The path is reversed. -/
def trimReversed : List Char → List Char
  | '/' :: cs => trimReversed cs
  | '.' :: '/' :: cs => trimReversed cs
  | cs => cs

/-- The path without its last name.  It is empty for a single name, and the root
has none. -/
def parent? (path : String) : Option String :=
  match trimReversed path.toList.reverse with
  | [] => none
  | cs =>
    match trimReversed (cs.dropWhile (· ≠ '/')) with
    | [] => some (if isAbsolute path then "/" else "")
    | rest => some (String.ofList rest.reverse)

/-- The paths around a path, the nearest first. -/
def parents (path : String) : List String :=
  match parent? path with
  | none => []
  | some parent => if parent.length < path.length then parent :: parents parent else []
termination_by path.length

end DesignTokens.Path
