import DesignTokens.TokenSet.Basic

/-!
# Changes

The difference of two values is a list of changes, each at the path of keys
that leads to it.  Objects are compared key by key, and everything else as a
whole.

Key definitions:

* `Change` is one difference.
* `Change.between` lists the differences of two values.
* `TokenSet.changes` lists those of two token sets.
-/

namespace DesignTokens

/-- The kinds of changes. -/
inductive ChangeKind where
  | added
  | modified
  | removed
deriving Repr, DecidableEq

instance : Alternatives ChangeKind where
  all := [.added, .modified, .removed]
  name
    | .added => "added"
    | .modified => "modified"
    | .removed => "removed"

/-- A difference of two values: the keys that lead to it and what is there
before and after. -/
structure Change where
  kind : ChangeKind
  path : List String
  old : Option Json
  new : Option Json
deriving Repr

namespace Change

/-- A value that is new. -/
def added (path : List String) (new : Json) : Change := ⟨.added, path, none, some new⟩

/-- A value that is gone. -/
def removed (path : List String) (old : Json) : Change := ⟨.removed, path, some old, none⟩

/-- A value that has given way to another one. -/
def modified (path : List String) (old new : Json) : Change :=
  ⟨.modified, path, some old, some new⟩

/-- Writes a field that is left out when there is no value. -/
def valueField (name : String) : Option Json → List (String × Json)
  | some j => [(name, j)]
  | none => []

instance : ToJson Change where
  toJson c := .obj <|
    [("type", toJson c.kind), ("path", toJson c.path)]
      ++ valueField "oldValue" c.old ++ valueField "newValue" c.new

instance : OfJson Change where
  ofJson? j := do
    let fields ← j.record?
      [Json.field "type", Json.field "path", Json.field "oldValue", Json.field "newValue"]
    let kind ← Json.required? fields "type"
    let path ← Json.required? fields "path"
    let old ← Json.optional? fields "oldValue"
    let new ← Json.optional? fields "newValue"
    return { kind, path, old, new }

/-- The fields that are in a new object only. -/
def additions (path : List String) (old new : List (String × Json)) : List Change :=
  new.filterMap (fun (key, value) =>
    if (Json.get? old key).isNone then some (added (path ++ [key]) value) else none)

mutual

/-- The differences of two values at a path. -/
def below (path : List String) : Json → Json → List Change
  | .obj old, .obj new => fields path new old ++ additions path old new
  | old, new => if old.same new then [] else [modified path old new]

/-- The differences that show in the fields of an old object. -/
def fields (path : List String) (new : List (String × Json)) :
    List (String × Json) → List Change
  | [] => []
  | (key, value) :: old =>
    (match Json.get? new key with
      | none => [removed (path ++ [key]) value]
      | some other => below (path ++ [key]) value other)
      ++ fields path new old

end

/-- The differences of two values. -/
def between (old new : Json) : List Change := below [] old new

end Change

/-- The differences of two token sets. -/
def TokenSet.changes (old new : TokenSet) : List Change :=
  Change.between (toJson old).canonical (toJson new).canonical

end DesignTokens
