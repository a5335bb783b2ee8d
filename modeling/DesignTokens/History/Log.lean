import DesignTokens.History.Change
import DesignTokens.History.Store
import DesignTokens.History.Version
import DesignTokens.Json.Reader
import DesignTokens.Json.Writer

/-!
# Histories

A history keeps the last versions of a token set, and the token set that is
live.  It reads its store afresh each time.

Key definitions:

* `HistoryError` lists what may go wrong.
* `History` holds the operations on a store, `History.save` and
  `History.revert` among them.
-/

namespace DesignTokens

/-- Why a history cannot be read or written. -/
inductive HistoryError where
  | versionNotFound (id : String)
  | store (cause : FileError)
  | json
deriving Repr, DecidableEq

/-- The description of an error. -/
def HistoryError.message : HistoryError → String
  | .versionNotFound id => "Version not found: " ++ id
  | .store cause => "Store I/O error: " ++ cause.message
  | .json => "JSON error"

/-- The outcome of reverting: the token set that is live now, and the version
under which the one before was saved. -/
structure Reverted where
  tokens : TokenSet
  saved : Option Version

namespace History

variable {m : Type → Type} [Monad m]

/-- The number of versions that are kept. -/
def capacity : Nat := 10

/-- The key of the versions. -/
def versionsKey : String := "token-history"

/-- The key of the live token set. -/
def currentKey : String := "extracted-tokens"

/-! ## Texts in the store -/

/-- The text under a key. -/
def loadText (store : Store m) (key : String) : ExceptT HistoryError m (Option String) := do
  match ← store.load key with
  | .ok text => return text
  | .error cause => throw (.store cause)

/-- Puts a text under a key. -/
def saveText (store : Store m) (key text : String) : ExceptT HistoryError m Unit := do
  match ← store.save key text with
  | .ok () => return
  | .error cause => throw (.store cause)

/-- The value under a key. -/
def load {α : Type} [OfJson α] (store : Store m) (key : String) :
    ExceptT HistoryError m (Option α) := do
  match ← loadText store key with
  | none => return none
  | some text =>
    match (Json.read? text).bind ofJson? with
    | some x => return some x
    | none => throw .json

/-! ## Reading -/

/-- The versions that are kept, newest first. -/
def versions (store : Store m) : ExceptT HistoryError m (List Version) := do
  return (← load store versionsKey).getD []

/-- The version with an id among others. -/
def find (vs : List Version) (id : String) : Except HistoryError Version :=
  match vs.find? (fun v => v.id == id) with
  | some v => .ok v
  | none => .error (.versionNotFound id)

/-- The version with an id. -/
def get (store : Store m) (id : String) : ExceptT HistoryError m Version := do
  let vs ← versions store
  find vs id

/-- The newest version. -/
def latest (store : Store m) : ExceptT HistoryError m (Option Version) := do
  let vs ← versions store
  return vs.head?

/-- The differences of two versions. -/
def compare (store : Store m) (oldId newId : String) : ExceptT HistoryError m (List Change) := do
  let vs ← versions store
  let old ← find vs oldId
  let new ← find vs newId
  return old.tokens.changes new.tokens

/-- The live token set. -/
def current (store : Store m) : ExceptT HistoryError m (Option TokenSet) :=
  load store currentKey

/-! ## Writing -/

/-- Makes a token set live. -/
def setCurrent (store : Store m) (tokens : TokenSet) : ExceptT HistoryError m Unit :=
  saveText store currentKey (toJson tokens).compact

/-- Saves a token set as the newest version.  The oldest one goes when there are
too many. -/
def save (store : Store m) (stamp : Stamp) (tokens : TokenSet) (fileId description : String) :
    ExceptT HistoryError m Version := do
  let vs ← versions store
  let version := Version.new stamp tokens fileId description
  saveText store versionsKey (toJson ((version :: vs).take capacity)).compact
  return version

/-- The description of a version that reverting saves. -/
def revertDescription (id : String) : String := "Auto-saved before reverting to version " ++ id

/-- Makes a version live.  The token set that was live before is saved first, so
that this can be taken back. -/
def revert (store : Store m) (stamp : Stamp) (id : String) : ExceptT HistoryError m Reverted := do
  let target ← get store id
  let saved ← match ← current store with
    | some tokens => some <$> save store stamp tokens target.fileId (revertDescription id)
    | none => pure none
  setCurrent store target.tokens
  return ⟨target.tokens, saved⟩

end History

end DesignTokens
