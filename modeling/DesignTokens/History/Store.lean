import DesignTokens.Files.Access
import DesignTokens.Files.Path
import DesignTokens.OrderedMap

/-!
# Stores

A store keeps texts under keys.

Key definitions: `Store`, `Store.memory`, `Store.folder`.
-/

namespace DesignTokens

/-- Where texts are kept under keys. -/
structure Store (m : Type → Type) where
  /-- The text under a key, if there is one. -/
  load : String → m (Except FileError (Option String))
  /-- Puts a text under a key.  An earlier one gives way. -/
  save : String → String → m (Except FileError Unit)

/-- Texts by key. -/
abbrev Shelf := OrderedMap String String

namespace Store

/-- The store that keeps texts in memory. -/
def memory : Store (StateM Shelf) where
  load key shelf := (.ok (shelf.get? key), shelf)
  save key text shelf := (.ok (), shelf.insert key text)

/-- The path of the file for a key. -/
def filePath (folder key : String) : String := Path.join folder (key ++ ".json")

/-- The store that keeps each text in a file of its own in a folder. -/
def folder {m : Type → Type} [Monad m] [MonadFiles m] (path : String) : Store m where
  load key := do
    match ← readText (filePath path key) with
    | .ok text => return .ok (some text)
    | .error .notFound => return .ok none
    | .error e => return .error e
  save key text := do
    match ← makeFolders path with
    | .error e => return .error e
    | .ok () => writeText (filePath path key) text

end Store

end DesignTokens
