import DesignTokens.Files.Path

/-!
# Access to files

Everything that reads and writes files does so through four operations, so
that it runs on a disk and in memory alike.

Key definitions:

* `FileError` lists what may go wrong.
* `MonadFiles` holds the operations.
* `makeFolders` makes a folder and the folders around it.
-/

namespace DesignTokens

/-- Why a file cannot be read or written. -/
inductive FileError where
  | notFound
  | alreadyExists
  | notAFolder
  | isAFolder
  | nameTooLong
  | notText
  | invalidName
  | other (description : String)
deriving Repr, DecidableEq

/-- The description of an error. -/
def FileError.message : FileError → String
  | .notFound => "No such file or directory (os error 2)"
  | .alreadyExists => "File exists (os error 17)"
  | .notAFolder => "Not a directory (os error 20)"
  | .isAFolder => "Is a directory (os error 21)"
  | .nameTooLong => "File name too long (os error 36)"
  | .notText => "stream did not contain valid UTF-8"
  | .invalidName => "file name contained an unexpected NUL byte"
  | .other description => description

/-- Computations that may read and write files. -/
class MonadFiles (m : Type → Type) where
  /-- Reads the text of a file. -/
  readText : String → m (Except FileError String)
  /-- Writes a text to a file, which it replaces. -/
  writeText : String → String → m (Except FileError Unit)
  /-- Makes a folder in a folder that is there. -/
  makeFolder : String → m (Except FileError Unit)
  /-- Whether a path leads to a folder. -/
  isFolder : String → m Bool

export MonadFiles (readText writeText)

section Folders

variable {m : Type → Type} [Monad m] [MonadFiles m]

/-- Passes on the outcome of making a folder.  It is no error if the folder is
there. -/
def acceptFolder (path : String) (outcome : Except FileError Unit) :
    m (Except FileError Unit) := do
  match outcome with
  | .ok () => return .ok ()
  | .error e => return if ← MonadFiles.isFolder path then .ok () else .error e

/-- Makes the first of some folders, each of which lies in the next one.  Only if
something around it is missing are the others looked at. -/
def makeFolderIn : List String → m (Except FileError Unit)
  | [] => return .error .notFound
  | path :: parents => do
    if path = "" then return .ok ()
    else
      match ← (MonadFiles.makeFolder path : m (Except FileError Unit)) with
      | .error .notFound =>
        match ← makeFolderIn parents with
        | .error e => return .error e
        | .ok () => acceptFolder path (← MonadFiles.makeFolder path)
      | outcome => acceptFolder path outcome

/-- Makes a folder and the folders around it, as far as they are missing. -/
def makeFolders (path : String) : m (Except FileError Unit) :=
  makeFolderIn (path :: Path.parents path)

end Folders

end DesignTokens
