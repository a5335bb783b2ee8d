import DesignTokens.Files.Access
import DesignTokens.OrderedMap

/-!
# Files in memory

A tree of folders and files that programs can work on instead of a disk.

Key definitions:

* `FileTree` holds files and folders by their names from the root.
* `FileTree.locate` follows a path.
* `FileTree.read`, `FileTree.write`, `FileTree.makeFolder` and
  `FileTree.isFolder` are the operations.
-/

namespace DesignTokens

/-- A file with its bytes, or a folder. -/
inductive FileEntry where
  | file (content : ByteArray)
  | folder

/-- Files and folders by the names that lead to them from the root, and the
folder in which relative paths start.  The root is always there. -/
structure FileTree where
  entries : OrderedMap (List String) FileEntry
  current : List String

namespace FileTree

/-- A tree in which only the current folder is there. -/
def empty : FileTree := ⟨.empty, []⟩

/-- What stands at a place. -/
def entry? (t : FileTree) (place : List String) : Option FileEntry :=
  if place.isEmpty then some .folder else t.entries.get? place

/-- Puts a file or a folder at a place. -/
def put (t : FileTree) (place : List String) (e : FileEntry) : FileTree :=
  { t with entries := t.entries.insert place e }

/-! ## Following paths -/

/-- The greatest number of bytes in a name. -/
def nameLimit : Nat := 255

/-- The greatest number of bytes in a path. -/
def pathLimit : Nat := 4095

/-- Goes from a folder into one of its entries. -/
def enter (t : FileTree) (place : List String) (name : String) : Except FileError (List String) :=
  match t.entry? place with
  | none => .error .notFound
  | some (.file _) => .error .notAFolder
  | some .folder =>
    if name = "." then .ok place
    else if name = ".." then .ok place.dropLast
    else if nameLimit < name.utf8ByteSize then .error .nameTooLong
    else .ok (place ++ [name])

/-- The place in which a path starts. -/
def start (t : FileTree) (path : String) : List String :=
  if Path.isAbsolute path then [] else t.current

/-- What is wrong with the text of a path, wherever it may lead. -/
def pathFault? (path : String) : Option FileError :=
  if path.toList.contains '\x00' then some .invalidName
  else if pathLimit < path.utf8ByteSize then some .nameTooLong
  else none

/-- The place that the names of a path lead to.  All but the last of them have to
be folders. -/
def walk (t : FileTree) (path : String) (names : List String) : Except FileError (List String) :=
  match pathFault? path with
  | some e => .error e
  | none => if path = "" then .error .notFound else names.foldlM t.enter (t.start path)

/-- The place that a path leads to. -/
def locate (t : FileTree) (path : String) : Except FileError (List String) :=
  t.walk path (Path.namesInto path)

/-! ## Operations -/

/-- Reads the text of a file. -/
def read (t : FileTree) (path : String) : Except FileError String := do
  let place ← t.locate path
  match t.entry? place with
  | none => .error .notFound
  | some .folder => .error .isAFolder
  | some (.file content) =>
    match String.fromUTF8? content with
    | some text => .ok text
    | none => .error .notText

/-- Writes the bytes of a file. -/
def writeBytes (t : FileTree) (path : String) (content : ByteArray) :
    Except FileError FileTree := do
  let place ← t.locate path
  match t.entry? place with
  | some .folder => .error .isAFolder
  | some (.file _) => .ok (t.put place (.file content))
  | none =>
    match t.entry? place.dropLast with
    | some .folder => .ok (t.put place (.file content))
    | some (.file _) => .error .notAFolder
    | none => .error .notFound

/-- Writes the text of a file. -/
def write (t : FileTree) (path text : String) : Except FileError FileTree :=
  t.writeBytes path text.toUTF8

/-- Makes a folder.  A slash at the end of the path does not count. -/
def makeFolder (t : FileTree) (path : String) : Except FileError FileTree := do
  let place ← t.walk path (Path.names path)
  match t.entry? place with
  | some _ => .error .alreadyExists
  | none => .ok (t.put place .folder)

/-- Whether a path leads to a folder. -/
def isFolder (t : FileTree) (path : String) : Bool :=
  match t.locate path with
  | .error _ => false
  | .ok place =>
    match t.entry? place with
    | some .folder => true
    | _ => false

/-- Carries out an operation that changes the tree unless it fails. -/
def change (t : FileTree) : Except FileError FileTree → Except FileError Unit × FileTree
  | .ok t => (.ok (), t)
  | .error e => (.error e, t)

instance : MonadFiles (StateM FileTree) where
  readText path t := (t.read path, t)
  writeText path text t := t.change (t.write path text)
  makeFolder path t := t.change (t.makeFolder path)
  isFolder path t := (t.isFolder path, t)

end FileTree

end DesignTokens
