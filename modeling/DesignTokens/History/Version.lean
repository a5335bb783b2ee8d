import DesignTokens.TokenSet.Basic

/-!
# Versions

A version is a token set that was saved under an id.

Key definitions: `Stamp`, `Version`.
-/

namespace DesignTokens

/-- What makes a new version unlike all others: a fresh id, and the time in
milliseconds. -/
structure Stamp where
  id : String
  timestamp : Int64
deriving Repr, DecidableEq

/-- A saved token set. -/
structure Version where
  id : String
  timestamp : Int64
  tokens : TokenSet
  description : String
  fileId : String
deriving BEq

namespace Version

/-- The version of a token set under a stamp. -/
def new (stamp : Stamp) (tokens : TokenSet) (fileId description : String) : Version :=
  ⟨stamp.id, stamp.timestamp, tokens, description, fileId⟩

/-- The fields of a version. -/
def knownFields : List Json.Field :=
  [Json.field "id", Json.field "timestamp", Json.field "tokens", Json.field "description",
    Json.field "fileId"]

instance : ToJson Version where
  toJson v := .obj
    [("id", toJson v.id), ("timestamp", toJson v.timestamp), ("tokens", toJson v.tokens),
      ("description", toJson v.description), ("fileId", toJson v.fileId)]

instance : OfJson Version where
  ofJson? j := do
    let fields ← j.record? knownFields
    let id ← Json.required? fields "id"
    let timestamp ← Json.required? fields "timestamp"
    let tokens ← Json.required? fields "tokens"
    let description ← Json.orElse? fields "description" ""
    let fileId ← Json.required? fields "fileId"
    return { id, timestamp, tokens, description, fileId }

end Version

end DesignTokens
