import DesignTokens.Design.Document
import DesignTokens.Proofs.Design.Address
import DesignTokens.Proofs.Json.Lawful

/-!
# Faults of documents

A document is checked before its tree is built.  The checks find the first faulty
node of the value, in the order in which the nodes stand in the document, and
say where it is by the names above it.  Where they find none, a tree that is
built has a node for each of those of the value, with its name.
-/

namespace DesignTokens

namespace Document

/-! ## Nodes of a value -/

/-- The name of the node that a value stands for. -/
def nodeName? : Json → Option String
  | .obj fields => stringField? fields "name"
  | _ => none

/-- The elements of the array that a node calls its children. -/
def children : Json → List Json
  | .obj fields =>
    match Json.get? fields "children" with
    | some (.arr items) => items
    | _ => []
  | _ => []

/-- The node at an address. -/
def at? : Json → List Nat → Option Json
  | j, [] => some j
  | j, i :: rest => (children j)[i]?.bind (fun child => at? child rest)

/-- The nodes above an address, outermost first. -/
def above : Json → List Nat → List Json
  | _, [] => []
  | j, i :: rest => j :: ((children j)[i]?.elim [] fun child => above child rest)

@[simp] theorem at?_nil (j : Json) : at? j [] = some j := rfl

theorem at?_cons (j : Json) (i : Nat) (rest : List Nat) :
    at? j (i :: rest) = (children j)[i]?.bind (fun child => at? child rest) := rfl

theorem above_cons {j child : Json} {i : Nat} (found : (children j)[i]? = some child)
    (rest : List Nat) : above j (i :: rest) = j :: above child rest := by
  rw [above, found]
  rfl

theorem sizeOf_lt_of_mem_children {j child : Json} (member : child ∈ children j) :
    sizeOf child < sizeOf j := by
  cases j with
  | obj fields =>
    rw [children] at member
    split at member
    · rename_i items found
      have known : childNodes? fields = some items := by rw [childNodes?, found]
      exact sizeOf_lt_of_childNodes? known member
    · cases member
  | _ => cases member

/-- What holds of a node if it holds of its children holds of every node. -/
theorem induction_children {P : Json → Prop}
    (node : ∀ j, (∀ child ∈ children j, P child) → P j) (j : Json) : P j :=
  node j fun child _ => induction_children node child
termination_by sizeOf j
decreasing_by
  rename_i member
  exact sizeOf_lt_of_mem_children member

/-! ## Faults -/

/-- The faults of a value that stands for a node. -/
inductive HasFault : Json → NodeFault → Prop where
  | notAnObject {j : Json} (other : ∀ fields, j ≠ .obj fields) : HasFault j .notAnObject
  | missingName {fields : List (String × Json)}
      (missing : ∀ name, Json.get? fields "name" ≠ some (.str name)) :
      HasFault (.obj fields) .missingName
  | missingType {fields : List (String × Json)}
      (missing : ∀ kind, Json.get? fields "type" ≠ some (.str kind)) :
      HasFault (.obj fields) .missingType
  | childrenNotAnArray {fields : List (String × Json)} {content : Json}
      (found : Json.get? fields "children" = some content) (present : content ≠ .null)
      (other : ∀ items, content ≠ .arr items) : HasFault (.obj fields) .childrenNotAnArray

/-- The first fault of a value that stands for a node, in the order of the checks. -/
def nodeFault? : Json → Option NodeFault
  | .obj fields =>
    if (stringField? fields "name").isNone then some .missingName
    else if (stringField? fields "type").isNone then some .missingType
    else if (childNodes? fields).isNone then some .childrenNotAnArray
    else none
  | _ => some .notAnObject

theorem stringField?_eq_none_iff {fields : List (String × Json)} {key : String} :
    stringField? fields key = none ↔ ∀ s, Json.get? fields key ≠ some (.str s) := by
  rw [stringField?]
  split
  · rename_i s found
    simp [found]
  · rename_i other
    exact ⟨fun _ s found => other s found, fun _ => rfl⟩

theorem childNodes?_eq_none_iff {fields : List (String × Json)} :
    childNodes? fields = none ↔
      ∃ content, Json.get? fields "children" = some content ∧ content ≠ .null ∧
        ∀ items, content ≠ .arr items := by
  rw [childNodes?]
  split
  · rename_i missing
    simp [missing]
  · rename_i found
    simp [found]
  · rename_i items found
    simp [found]
  · rename_i content present other found
    exact ⟨fun _ => ⟨content, found, present, other⟩, fun _ => rfl⟩

theorem childNodes?_of_some {fields : List (String × Json)} {items : List Json}
    (found : childNodes? fields = some items) : children (.obj fields) = items := by
  rw [childNodes?] at found
  rw [children]
  split at found <;> cases found <;> simp [*]

/-- The faults of a node are found one after the other. -/
theorem hasFault_of_nodeFault? {j : Json} {fault : NodeFault} (found : nodeFault? j = some fault) :
    HasFault j fault := by
  cases j with
  | obj fields =>
    simp only [nodeFault?, Option.isNone_iff_eq_none] at found
    split at found
    · cases found
      rename_i missing
      exact .missingName (stringField?_eq_none_iff.mp missing)
    split at found
    · cases found
      rename_i missing
      exact .missingType (stringField?_eq_none_iff.mp missing)
    split at found
    · cases found
      rename_i missing
      obtain ⟨content, found, present, other⟩ := childNodes?_eq_none_iff.mp missing
      exact .childrenNotAnArray found present other
    · cases found
  | _ =>
    cases found
    refine .notAnObject fun fields same => ?_
    cases same

/-- A node without a fault is an object with a name, a type and children. -/
theorem nodeFault?_eq_none_iff {j : Json} :
    nodeFault? j = none ↔
      ∃ fields name kind items, j = .obj fields ∧ stringField? fields "name" = some name ∧
        stringField? fields "type" = some kind ∧ childNodes? fields = some items := by
  constructor
  · intro sound
    cases j with
    | obj fields =>
      simp only [nodeFault?, Option.isNone_iff_eq_none] at sound
      split at sound
      · cases sound
      split at sound
      · cases sound
      split at sound
      · cases sound
      rename_i named typed nested
      obtain ⟨name, named⟩ := Option.ne_none_iff_exists'.mp named
      obtain ⟨kind, typed⟩ := Option.ne_none_iff_exists'.mp typed
      obtain ⟨items, nested⟩ := Option.ne_none_iff_exists'.mp nested
      exact ⟨fields, name, kind, items, rfl, named, typed, nested⟩
    | _ => cases sound
  · rintro ⟨fields, name, kind, items, rfl, named, typed, nested⟩
    simp [nodeFault?, named, typed, nested]

/-- No fault is overlooked. -/
theorem nodeFault?_ne_none_of_hasFault {j : Json} {fault : NodeFault} (has : HasFault j fault) :
    nodeFault? j ≠ none := by
  rw [Ne, nodeFault?_eq_none_iff]
  rintro ⟨fields, name, kind, items, rfl, named, typed, nested⟩
  cases has with
  | notAnObject other => exact other fields rfl
  | missingName missing => simp [stringField?_eq_none_iff.mpr missing] at named
  | missingType missing => simp [stringField?_eq_none_iff.mpr missing] at typed
  | childrenNotAnArray found present other =>
    simp [childNodes?_eq_none_iff.mpr ⟨_, found, present, other⟩] at nested

/-- The check of a tree in terms of the check of a node. -/
theorem firstFault?_eq (names : List String) (j : Json) :
    firstFault? names j =
      match nodeFault? j with
      | some fault => some (names ++ (nodeName? j).toList, fault)
      | none => (children j).findSome? (firstFault? (names ++ (nodeName? j).toList)) := by
  cases j with
  | obj fields =>
    rw [firstFault?, nodeFault?, nodeName?]
    cases stringField? fields "name" with
    | none => simp
    | some name =>
      cases stringField? fields "type" with
      | none => simp
      | some kind =>
        simp only [Option.isNone_some, Bool.false_eq_true, if_false]
        split
        · rename_i missing
          simp [missing]
        · rename_i items found
          simp [found, childNodes?_of_some found]
  | _ =>
    rw [firstFault?]
    · simp [nodeFault?, nodeName?]
    · intro fields same
      cases same

/-! ## Faults of trees -/

/-- Whether no node of a tree has a fault. -/
def IsFaultless (tree : Json) : Prop := ∀ a j, at? tree a = some j → nodeFault? j = none

/-- Whether the first node of a tree that has a fault is at an address. -/
structure IsFirstFault (tree : Json) (a : List Nat) (j : Json) (fault : NodeFault) : Prop where
  there : at? tree a = some j
  faulty : nodeFault? j = some fault
  before : ∀ b k, b < a → at? tree b = some k → nodeFault? k = none

/-- What holds of all nodes of a tree holds of its root and of all nodes below the children of the
root. -/
theorem forall_at?_iff {P : Json → Prop} {j : Json} :
    (∀ a k, at? j a = some k → P k) ↔
      P j ∧ ∀ child ∈ children j, ∀ a k, at? child a = some k → P k := by
  constructor
  · intro each
    refine ⟨each [] j rfl, fun child member a k inside => ?_⟩
    obtain ⟨i, found⟩ := List.mem_iff_getElem?.mp member
    exact each (i :: a) k (by rw [at?_cons, found]; exact inside)
  · rintro ⟨own, inner⟩ (_ | ⟨i, a⟩) k there
    · cases there
      exact own
    · obtain ⟨child, found, inside⟩ := Option.bind_eq_some_iff.mp there
      exact inner child (List.mem_of_getElem? found) a k inside

theorem isFaultless_iff {j : Json} :
    IsFaultless j ↔ nodeFault? j = none ∧ ∀ child ∈ children j, IsFaultless child :=
  forall_at?_iff

theorem isFirstFault_nil {j k : Json} {fault : NodeFault} :
    IsFirstFault j [] k fault ↔ j = k ∧ nodeFault? j = some fault := by
  constructor
  · rintro ⟨⟨⟩, faulty, -⟩
    exact ⟨rfl, faulty⟩
  · rintro ⟨rfl, faulty⟩
    exact ⟨rfl, faulty, fun b k smaller => absurd smaller (List.not_lt_nil b)⟩

/-- Before a node inside a child come its parent, the children before this one and what comes
before it in the child. -/
theorem isFirstFault_cons {j k : Json} {i : Nat} {a : List Nat} {fault : NodeFault} :
    IsFirstFault j (i :: a) k fault ↔
      nodeFault? j = none ∧ ∃ child, (children j)[i]? = some child ∧
        IsFirstFault child a k fault ∧
        ∀ e < i, ∀ earlier, (children j)[e]? = some earlier → IsFaultless earlier := by
  constructor
  · rintro ⟨there, faulty, before⟩
    obtain ⟨child, found, inside⟩ := Option.bind_eq_some_iff.mp there
    refine ⟨before [] j (List.nil_lt_cons _ _) rfl, child, found, ⟨inside, faulty, ?_⟩, ?_⟩
    · intro b l smaller here
      refine before (i :: b) l (List.cons_lt_cons_iff.mpr (.inr ⟨rfl, smaller⟩)) ?_
      rw [at?_cons, found]
      exact here
    · intro e less earlier known b l here
      refine before (e :: b) l (List.cons_lt_cons_iff.mpr (.inl less)) ?_
      rw [at?_cons, known]
      exact here
  · rintro ⟨own, child, found, ⟨inside, faulty, before⟩, earlier⟩
    refine ⟨by rw [at?_cons, found]; exact inside, faulty, ?_⟩
    rintro (_ | ⟨e, b⟩) l smaller there
    · cases there
      exact own
    · obtain ⟨other, known, here⟩ := Option.bind_eq_some_iff.mp there
      rcases List.cons_lt_cons_iff.mp smaller with less | ⟨rfl, inner⟩
      · exact earlier e less other known b l here
      · cases found.symm.trans known
        exact before b l inner here

/-! ## The check -/

/-- The check finds nothing just in trees without faults. -/
theorem firstFault?_eq_none_iff {names : List String} {j : Json} :
    firstFault? names j = none ↔ IsFaultless j := by
  induction j using induction_children generalizing names with
  | node j ih =>
    rw [firstFault?_eq, isFaultless_iff]
    cases nodeFault? j with
    | some fault => simp
    | none =>
      rw [List.findSome?_eq_none_iff, eq_self, true_and]
      exact forall₂_congr fun child member => ih child member

theorem findSome?_eq_some_iff_getElem? {α β : Type} {f : α → Option β} {xs : List α} {y : β} :
    xs.findSome? f = some y ↔
      ∃ (i : Nat) (x : α), xs[i]? = some x ∧ f x = some y ∧
        ∀ e < i, ∀ z, xs[e]? = some z → f z = none := by
  constructor
  · intro found
    obtain ⟨before, x, after, rfl, image, earlier⟩ := List.findSome?_eq_some_iff.mp found
    refine ⟨before.length, x, by simp, image, fun e less z here => earlier z ?_⟩
    rw [List.getElem?_append_left less] at here
    exact List.mem_of_getElem? here
  · rintro ⟨i, x, here, image, earlier⟩
    obtain ⟨inside, rfl⟩ := List.getElem?_eq_some_iff.mp here
    refine List.findSome?_eq_some_iff.mpr
      ⟨xs.take i, xs[i], xs.drop (i + 1), by simp, image, fun z member => ?_⟩
    obtain ⟨e, known⟩ := List.mem_iff_getElem?.mp member
    rw [List.getElem?_take] at known
    split at known
    · rename_i less
      exact earlier e less z known
    · cases known

/-- The check finds the first fault of a tree.  Its path goes through the names above the
node to its own name, if it has one. -/
theorem firstFault?_eq_some_iff {names path : List String} {j : Json} {fault : NodeFault} :
    firstFault? names j = some (path, fault) ↔
      ∃ a k inner, IsFirstFault j a k fault ∧ (above j a).map nodeName? = inner.map some ∧
        path = names ++ (inner ++ (nodeName? k).toList) := by
  induction j using induction_children generalizing names with
  | node j ih =>
    rw [firstFault?_eq]
    cases own : nodeFault? j with
    | some here =>
      constructor
      · rintro ⟨⟩
        exact ⟨[], j, [], isFirstFault_nil.mpr ⟨rfl, own⟩, rfl, rfl⟩
      · rintro ⟨_ | ⟨i, a⟩, k, inner, first, called, rfl⟩
        · obtain ⟨rfl, faulty⟩ := isFirstFault_nil.mp first
          cases List.map_eq_nil_iff.mp called.symm
          cases own.symm.trans faulty
          rfl
        · cases own.symm.trans (isFirstFault_cons.mp first).1
    | none =>
      obtain ⟨name, named⟩ : ∃ name, nodeName? j = some name := by
        obtain ⟨fields, name, -, -, rfl, named, -⟩ := nodeFault?_eq_none_iff.mp own
        exact ⟨name, named⟩
      rw [named, Option.toList_some]
      refine findSome?_eq_some_iff_getElem?.trans ?_
      constructor
      · rintro ⟨i, child, found, inside, earlier⟩
        obtain ⟨a, k, inner, first, called, rfl⟩ :=
          (ih child (List.mem_of_getElem? found)).mp inside
        refine ⟨i :: a, k, name :: inner, isFirstFault_cons.mpr ⟨own, child, found, first, ?_⟩,
          ?_, by simp⟩
        · exact fun e less other known => firstFault?_eq_none_iff.mp (earlier e less other known)
        · rw [above_cons found, List.map_cons, List.map_cons, named, called]
      · rintro ⟨_ | ⟨i, a⟩, k, inner, first, called, rfl⟩
        · cases own.symm.trans (isFirstFault_nil.mp first).2
        · obtain ⟨-, child, found, first, earlier⟩ := isFirstFault_cons.mp first
          rw [above_cons found, List.map_cons, named] at called
          obtain ⟨_, inner, rfl, ⟨⟩, below⟩ := List.map_eq_cons_iff.mp called.symm
          refine ⟨i, child, found, (ih child (List.mem_of_getElem? found)).mpr
            ⟨a, k, inner, first, below.symm, by simp⟩, ?_⟩
          exact fun e less other known => firstFault?_eq_none_iff.mpr (earlier e less other known)

/-! ## Trees that are built -/

/-- The reading of a node, with the nodes inside it read as a list. -/
theorem ofJson?_eq (j : Json) :
    Node.ofJson? j = (j.record? Node.knownFields).bind (fun fields => do
      let own ← Node.attributes? fields
      let children ← Json.orElse? fields "children" []
      return { own, children }) := by
  rw [Node.ofJson?]
  split
  · rename_i missing
    rw [missing]
    rfl
  · rename_i fields found
    rw [found, Option.bind_some]
    refine bind_congr fun own => ?_
    dsimp only
    -- The match on the children carries proofs of size for the recursion and reads a list.
    split
    · rename_i missing
      rw [Json.orElse?, missing]
    · rename_i items given
      rw [Json.orElse?, given]
      show items.attach.mapM (fun item => Node.ofJson? item.1) >>= _ = items.mapM ofJson? >>= _
      rw [mapM_attach]
      rfl
    · rename_i content other given
      rw [Json.orElse?, given]
      cases content with
      | arr items => exact absurd rfl (other items)
      | _ => rfl

theorem name_of_attributes? {fields : List (String × Json)} {own : Attributes}
    (read : Node.attributes? fields = some own) :
    stringField? fields "name" = some own.name := by
  obtain ⟨_, -, read⟩ := Option.bind_eq_some_iff.mp read
  obtain ⟨name, named, read⟩ := Option.bind_eq_some_iff.mp read
  -- None of the readings of the other attributes touches the name.
  iterate 14 obtain ⟨_, -, read⟩ := Option.bind_eq_some_iff.mp read
  cases read
  obtain ⟨content, found, text⟩ := Option.bind_eq_some_iff.mp named
  cases content with
  | str s =>
    cases text
    rw [stringField?, found]
  | _ => cases text

/-- The name of a node that is built, and what is inside it, are read from the fields of these
names. -/
theorem fields_of_ofJson? {fields : List (String × Json)} {n : Node}
    (read : Node.ofJson? (.obj fields) = some n) :
    stringField? fields "name" = some n.name ∧
      Json.orElse? fields "children" [] = some n.children := by
  rw [ofJson?_eq, Option.bind_eq_some_iff] at read
  obtain ⟨found, whole, read⟩ := read
  obtain ⟨own, attributes, read⟩ := Option.bind_eq_some_iff.mp read
  obtain ⟨inner, below, read⟩ := Option.bind_eq_some_iff.mp read
  cases read
  have given (key : String) (known : key ∈ Node.knownFields.map Json.Field.name) :
      Json.get? found key = Json.get? fields key := by
    rw [Json.record?] at whole
    split at whole
    · cases whole
      exact Json.get?_knownFields (by decide) known fields
    · cases whole
  constructor
  · rw [stringField?, ← given "name" (by decide)]
    exact name_of_attributes? attributes
  · rw [Json.orElse?, ← given "children" (by decide)]
    exact below

/-- A node that is built has the name of the value, and what is inside it is built of the
children of the value. -/
theorem name_and_children_of_ofJson? {j : Json} {n : Node} (sound : nodeFault? j = none)
    (read : Node.ofJson? j = some n) :
    nodeName? j = some n.name ∧ (children j).mapM Node.ofJson? = some n.children := by
  obtain ⟨fields, name, kind, items, rfl, named, -, nested⟩ := nodeFault?_eq_none_iff.mp sound
  obtain ⟨called, below⟩ := fields_of_ofJson? read
  refine ⟨called, ?_⟩
  rw [Json.orElse?] at below
  rw [children]
  cases content : Json.get? fields "children" with
  | none =>
    rw [content] at below
    exact below
  | some value =>
    rw [content] at below
    cases value with
    | arr items => exact below
    | _ => cases below

/-- A tree that is built of a value without faults has a node at each address of the
value, and no others, with the names of the value. -/
theorem map_nodeName?_at? {j : Json} {n : Node} (sound : IsFaultless j)
    (read : Node.ofJson? j = some n) (a : List Nat) :
    (at? j a).map nodeName? = (n.at? a).map (fun m => some m.name) := by
  induction a generalizing j n with
  | nil =>
    obtain ⟨named, -⟩ := name_and_children_of_ofJson? (isFaultless_iff.mp sound).1 read
    rw [at?_nil, Node.at?_nil, Option.map_some, Option.map_some, named]
  | cons i a ih =>
    obtain ⟨own, inner⟩ := isFaultless_iff.mp sound
    obtain ⟨-, built⟩ := name_and_children_of_ofJson? own read
    have item := map_getElem?_of_mapM built i
    rw [at?_cons, Node.at?_cons]
    cases found : (children j)[i]? with
    | none =>
      rw [found, Option.map_none, eq_comm, Option.map_eq_none_iff] at item
      rw [item]
      rfl
    | some child =>
      rw [found, Option.map_some, eq_comm, Option.map_eq_some_iff] at item
      obtain ⟨m, here, made⟩ := item
      rw [here]
      exact ih (inner child (List.mem_of_getElem? found)) made.symm

/-! ## Reading -/

theorem message_malformed (path : List String) (fault : NodeFault) :
    (DocumentError.malformed path fault).message =
      "Malformed node at " ++ (if path = [] then "<root>" else " / ".intercalate path) ++ ": "
        ++ fault.message := by
  show "Malformed node at " ++ pathText path ++ ": " ++ fault.message = _
  simp only [pathText, List.isEmpty_iff]

theorem isFaultless_iff_not_hasFault {tree : Json} :
    IsFaultless tree ↔ ∀ a j fault, at? tree a = some j → ¬ HasFault j fault := by
  constructor
  · exact fun sound a j fault there has => nodeFault?_ne_none_of_hasFault has (sound a j there)
  · intro sound a j there
    rw [Option.eq_none_iff_forall_not_mem]
    exact fun fault found => sound a j fault there (hasFault_of_nodeFault? found)

theorem ofValue?_eq_malformed_iff {value : Json} {path : List String} {fault : NodeFault} :
    ofValue? value = .error (.malformed path fault) ↔
      firstFault? [] (root value) = some (path, fault) := by
  rw [ofValue?]
  cases firstFault? [] (root value) with
  | some found => simp [Prod.ext_iff]
  | none => cases Node.ofJson? (root value) <;> simp

/-- What is without faults is read as a tree, or is none. -/
theorem ofValue?_of_isFaultless {value : Json} (sound : IsFaultless (root value)) :
    ofValue? value = (Node.ofJson? (root value)).elim (.error .json) .ok := by
  rw [ofValue?, firstFault?_eq_none_iff.mpr sound]
  cases Node.ofJson? (root value) <;> rfl

/-- A document is malformed just if some node of the value has a fault.  The error then is
about the first of them: its path has the names of all nodes above it and its own name,
if it has one.  All other values are read, or are no tree for another reason, and a tree
that is read has the shape and the names of the value. -/
theorem ofValue?_malformed_or_named (value : Json) :
    let tree := root value
    ((∃ path fault, ofValue? value = .error (.malformed path fault)) ↔
      ∃ a j fault, at? tree a = some j ∧ HasFault j fault) ∧
    (∀ path fault, ofValue? value = .error (.malformed path fault) ↔
      ∃ a j names, IsFirstFault tree a j fault ∧ (above tree a).map nodeName? = names.map some ∧
        path = names ++ (nodeName? j).toList) ∧
    (∀ path fault, (DocumentError.malformed path fault).message =
      "Malformed node at " ++ (if path = [] then "<root>" else " / ".intercalate path) ++ ": "
        ++ fault.message) ∧
    ((∀ a j fault, at? tree a = some j → ¬ HasFault j fault) →
      (∃ n, ofValue? value = .ok n) ∨ ofValue? value = .error .json) ∧
    ∀ n, ofValue? value = .ok n →
      ∀ a, (at? tree a).map nodeName? = (n.at? a).map (fun m => some m.name) := by
  have faultless : (¬ ∃ path fault, ofValue? value = .error (.malformed path fault)) ↔
      IsFaultless (root value) := by
    rw [← @firstFault?_eq_none_iff [], Option.eq_none_iff_forall_not_mem, Prod.forall]
    simp only [ofValue?_eq_malformed_iff, not_exists, Option.mem_def]
  refine ⟨?_, fun path fault => ?_, fun path fault => ?_, fun sound => ?_, fun n read => ?_⟩
  · rw [← not_iff_not, faultless, isFaultless_iff_not_hasFault]
    simp only [not_exists, not_and]
  · rw [ofValue?_eq_malformed_iff, firstFault?_eq_some_iff]
    rfl
  · exact message_malformed path fault
  · rw [ofValue?_of_isFaultless (isFaultless_iff_not_hasFault.mpr sound)]
    cases Node.ofJson? (root value) with
    | none => exact .inr rfl
    | some n => exact .inl ⟨n, rfl⟩
  · have sound : IsFaultless (root value) := faultless.mp fun ⟨path, fault, malformed⟩ => by
      rw [read] at malformed
      cases malformed
    rw [ofValue?_of_isFaultless sound] at read
    cases built : Node.ofJson? (root value) with
    | none =>
      rw [built] at read
      cases read
    | some m =>
      rw [built] at read
      cases read
      exact map_nodeName?_at? sound built

end Document

end DesignTokens
