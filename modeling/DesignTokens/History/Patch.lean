import DesignTokens.History.Change

/-!
# Patches

A list of changes turns the old value into the new one.  This module carries
changes out.

Key definitions: `Change.patch?`, `Change.patchAll?`.
-/

namespace DesignTokens.Change

/-- The value of a field after something was done to it.  `none` as the old
value means that there is no such field, and as the new one that it goes. -/
abbrev Edit := Option Json → Option (Option Json)

/-- Edits a field of an object. -/
def editField (key : String) (edit : Edit) (fields : List (String × Json)) :
    Option (List (String × Json)) := do
  let rest := fields.filter (fun f => f.1 != key)
  match ← edit (Json.get? fields key) with
  | some value => return Json.insertSorted key value rest
  | none => return rest

/-- Edits what stands at a path.  The keys on the way have to lead through
objects. -/
def editAt (edit : Edit) : List String → Edit
  | [], j => edit j
  | key :: path, some (.obj fields) => do
    let fields ← editField key (editAt edit path) fields
    return some (.obj fields)
  | _ :: _, _ => none

/-- What a change does to the value at its path.  A value can only be added
where there is none, and only removed or modified where there is one. -/
def edit (c : Change) : Edit :=
  match c.kind with
  | .added => fun j => if j.isNone then c.new.map some else none
  | .modified => fun j => if j.isSome then c.new.map some else none
  | .removed => fun j => if j.isSome then some none else none

/-- The value after a change, if the change fits. -/
def patch? (c : Change) (j : Json) : Option Json := do
  let j ← editAt c.edit c.path (some j)
  j

/-- The value after several changes in order. -/
def patchAll? (cs : List Change) (j : Json) : Option Json :=
  cs.foldlM (fun j c => c.patch? j) j

end DesignTokens.Change
