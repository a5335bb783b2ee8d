import DesignTokens.Design.Node
import DesignTokens.Json.Reader

/-!
# Reading design documents

Documents come from outside, and each of their nodes is checked before the tree
is built: a node is an object with a name and a type, and what it calls its
children is an array.

Key definitions:

* `NodeFault` lists what may be wrong with a node.
* `DocumentError` is the outcome of a failed reading.
* `Document.firstFault?` finds the first faulty node.
* `Document.ofValue?` and `Document.ofText?` read a document.
-/

namespace DesignTokens

/-! ## Errors -/

/-- What may be wrong with a node. -/
inductive NodeFault where
  | notAnObject
  | missingName
  | missingType
  | childrenNotAnArray
deriving Repr, DecidableEq

/-- The description of a fault. -/
def NodeFault.message : NodeFault → String
  | .notAnObject => "node is not an object"
  | .missingName => "missing string field `name`"
  | .missingType => "missing string field `type`"
  | .childrenNotAnArray => "`children` is not an array"

/-- Why a document cannot be read.  The path of a malformed node has the names
of its ancestors and, if it could be read, its own. -/
inductive DocumentError where
  | malformed (path : List String) (fault : NodeFault)
  | json
deriving Repr, DecidableEq

/-- The place of a node in messages. -/
def pathText (path : List String) : String :=
  if path.isEmpty then "<root>" else " / ".intercalate path

/-- The description of an error. -/
def DocumentError.message : DocumentError → String
  | .malformed path fault => "Malformed node at " ++ pathText path ++ ": " ++ fault.message
  | .json => "JSON error"

namespace Document

/-- The version of the node format that is read. -/
def formatVersion : Nat := 1

/-! ## Checking nodes -/

/-- The string in a field. -/
def stringField? (fields : List (String × Json)) (key : String) : Option String :=
  match Json.get? fields key with
  | some (.str s) => some s
  | _ => none

/-- The nodes that an object calls its children, or `none` if they are no
array.  `null` stands for no children. -/
def childNodes? (fields : List (String × Json)) : Option (List Json) :=
  match Json.get? fields "children" with
  | none | some .null => some []
  | some (.arr items) => some items
  | some _ => none

/-- The children of an object are smaller than the object. -/
theorem sizeOf_lt_of_childNodes? {fields : List (String × Json)} {items : List Json} {j : Json}
    (h : childNodes? fields = some items) (mem : j ∈ items) :
    sizeOf j < sizeOf (Json.obj fields) := by
  unfold childNodes? at h
  split at h
  · cases h
    simp at mem
  · cases h
    simp at mem
  · rename_i found
    cases h
    obtain ⟨k, here⟩ := Json.mem_of_get? found
    have outer := List.sizeOf_lt_of_mem here
    have inner := List.sizeOf_lt_of_mem mem
    simp only [Prod.mk.sizeOf_spec, Json.arr.sizeOf_spec] at outer
    simp only [Json.obj.sizeOf_spec]
    omega
  · simp at h

/-- The first faulty node of a tree in document order.  `ancestors` are the names
above the node, outermost first. -/
def firstFault? (ancestors : List String) (j : Json) : Option (List String × NodeFault) :=
  match j with
  | .obj fields =>
    match stringField? fields "name" with
    | none => some (ancestors, .missingName)
    | some name =>
      let path := ancestors ++ [name]
      if (stringField? fields "type").isNone then some (path, .missingType)
      else
        match _children : childNodes? fields with
        | none => some (path, .childrenNotAnArray)
        | some items => items.attach.findSome? (fun ⟨item, _⟩ => firstFault? path item)
  | _ => some (ancestors, .notAnObject)
termination_by sizeOf j
decreasing_by
  rename_i mem
  exact sizeOf_lt_of_childNodes? _children mem

/-! ## Reading -/

/-- The root node: the value itself, or what an object without a type holds
under `document`. -/
def root : Json → Json
  | .obj fields =>
    match Json.get? fields "type", Json.get? fields "document" with
    | none, some inner => inner
    | _, _ => .obj fields
  | j => j

/-- Reads a document from a value. -/
def ofValue? (value : Json) : Except DocumentError Node :=
  match firstFault? [] (root value) with
  | some (path, fault) => .error (.malformed path fault)
  | none =>
    match Node.ofJson? (root value) with
    | some n => .ok n
    | none => .error .json

/-- Reads a document from text. -/
def ofText? (text : String) : Except DocumentError Node :=
  match Json.readValue? text with
  | some value => ofValue? value
  | none => .error .json

end Document

end DesignTokens
