import DesignTokens.Proofs.Design.Document
import DesignTokens.Proofs.Json.Spelling

/-!
# Nodes with null for children

The check of a document takes `null` for no children, and the reading of its tree does not.
So a document may be without a fault and yet be refused, for a field that could as well be
left out.

Key definitions:

* `HasNullChildren` tells the nodes with such a field.
* `withoutNullChildren` leaves out these fields.
-/

namespace DesignTokens.Document

/-! ## Leaving out fields -/

/-- Whether a value stands for a node that has `null` for its children. -/
def HasNullChildren (j : Json) : Prop :=
  ∃ fields, j = .obj fields ∧ Json.get? fields "children" = some .null

mutual

/-- A node without `null` for the children of it or of any node below it. -/
def stripped : Json → Json
  | .obj fields => .obj (strippedFields fields)
  | j => j

/-- The fields of a node, without those that have `null` for children. -/
def strippedFields : List (String × Json) → List (String × Json)
  | [] => []
  | (key, j) :: fields =>
    if key = "children" then (strippedContent? j).toList.map (key, ·) ++ strippedFields fields
    else (key, j) :: strippedFields fields

/-- What a node has for its children, unless it is `null`. -/
def strippedContent? : Json → Option Json
  | .null => none
  | .arr items => some (.arr (strippedItems items))
  | j => some j

/-- Nodes, each without `null` for children. -/
def strippedItems : List Json → List Json
  | [] => []
  | j :: js => stripped j :: strippedItems js

end

/-- A document without `null` for the children of any of its nodes. -/
def withoutNullChildren : Json → Json
  | .obj fields =>
    match Json.get? fields "type", Json.get? fields "document" with
    | none, some _ =>
      .obj (fields.map (fun f => (f.1, if f.1 = "document" then stripped f.2 else f.2)))
    | _, _ => stripped (.obj fields)
  | j => j

theorem strippedItems_eq_map (items : List Json) : strippedItems items = items.map stripped := by
  induction items with
  | nil => rfl
  | cons j js ih => rw [strippedItems, ih, List.map_cons]

theorem get?_strippedFields_of_ne {key : String} (other : key ≠ "children")
    (fields : List (String × Json)) :
    Json.get? (strippedFields fields) key = Json.get? fields key := by
  induction fields with
  | nil => rfl
  | cons f fields ih =>
    obtain ⟨k, j⟩ := f
    rw [strippedFields, Json.get?_cons]
    split
    · rename_i here
      rw [if_neg (fun same => other (same.trans here))]
      cases strippedContent? j with
      | none => exact ih
      | some i =>
        rw [Option.toList_some, List.map_singleton, List.singleton_append, Json.get?_cons,
          if_neg (fun same => other (same.trans here)), ih]
    · rw [Json.get?_cons, ih]

theorem get?_strippedFields_children {fields : List (String × Json)}
    (sorted : Json.Sorted fields) :
    Json.get? (strippedFields fields) "children" =
      (Json.get? fields "children").bind strippedContent? := by
  induction fields with
  | nil => rfl
  | cons f fields ih =>
    obtain ⟨k, j⟩ := f
    obtain ⟨lowest, others⟩ := Json.sorted_cons.mp sorted
    rw [strippedFields, Json.get?_cons]
    split
    · rename_i here
      subst here
      rw [if_pos rfl, Option.bind_some]
      cases strippedContent? j with
      | none =>
        -- No other field has this name.
        have nowhere : Json.get? fields "children" = none := Json.get?_eq_none_of_lt lowest
        show Json.get? (strippedFields fields) "children" = none
        rw [ih others, nowhere]
        rfl
      | some i => rw [Option.toList_some, List.map_singleton, List.singleton_append,
          Json.get?_cons, if_pos rfl]
    · rename_i other
      rw [Json.get?_cons, if_neg (Ne.symm other), if_neg (Ne.symm other), ih others]

/-- Only what an envelope is around is changed in it. -/
theorem get?_strippedEnvelope (fields : List (String × Json)) (key : String) :
    Json.get? (fields.map (fun f => (f.1, if f.1 = "document" then stripped f.2 else f.2))) key =
      (Json.get? fields key).map (if key = "document" then stripped else id) := by
  induction fields with
  | nil => rfl
  | cons f fields ih =>
    rw [List.map_cons, Json.get?_cons, Json.get?_cons, ih]
    by_cases here : key = f.1
    · subst here
      rw [if_pos rfl, if_pos rfl, Option.map_some]
      split <;> rfl
    · rw [if_neg here, if_neg here]

/-! ## Envelopes -/

/-- Whether an object is no node itself and has one inside. -/
def IsEnvelope (fields : List (String × Json)) (inner : Json) : Prop :=
  Json.get? fields "type" = none ∧ Json.get? fields "document" = some inner

section Envelopes

variable {fields : List (String × Json)} {inner : Json}

theorem root_of_isEnvelope (envelope : IsEnvelope fields inner) : root (.obj fields) = inner := by
  simp only [root, envelope.1, envelope.2]

theorem root_of_not_isEnvelope (node : ∀ inner, ¬ IsEnvelope fields inner) :
    root (.obj fields) = .obj fields := by
  rw [root]
  split
  · rename_i inner typed found
    exact absurd ⟨typed, found⟩ (node inner)
  · rfl

theorem withoutNullChildren_of_isEnvelope (envelope : IsEnvelope fields inner) :
    withoutNullChildren (.obj fields) =
      .obj (fields.map (fun f => (f.1, if f.1 = "document" then stripped f.2 else f.2))) := by
  simp only [withoutNullChildren, envelope.1, envelope.2]

theorem withoutNullChildren_of_not_isEnvelope (node : ∀ inner, ¬ IsEnvelope fields inner) :
    withoutNullChildren (.obj fields) = stripped (.obj fields) := by
  rw [withoutNullChildren]
  split
  · rename_i inner typed found
    exact absurd ⟨typed, found⟩ (node inner)
  · rfl

theorem isEnvelope_strippedFields_iff :
    IsEnvelope (strippedFields fields) inner ↔ IsEnvelope fields inner := by
  rw [IsEnvelope, IsEnvelope, get?_strippedFields_of_ne (by decide),
    get?_strippedFields_of_ne (by decide)]

theorem IsEnvelope.stripped (envelope : IsEnvelope fields inner) :
    IsEnvelope (fields.map (fun f => (f.1, if f.1 = "document" then stripped f.2 else f.2)))
      (stripped inner) := by
  rw [IsEnvelope, get?_strippedEnvelope, get?_strippedEnvelope, envelope.1, envelope.2]
  exact ⟨rfl, rfl⟩

end Envelopes

/-- The node of a document is stripped, be it in an envelope or not. -/
theorem root_withoutNullChildren (value : Json) :
    root (withoutNullChildren value) = stripped (root value) := by
  cases value with
  | obj fields =>
    by_cases around : ∃ inner, IsEnvelope fields inner
    · obtain ⟨inner, envelope⟩ := around
      rw [withoutNullChildren_of_isEnvelope envelope, root_of_isEnvelope envelope,
        root_of_isEnvelope envelope.stripped]
    · have node := not_exists.mp around
      rw [withoutNullChildren_of_not_isEnvelope node, root_of_not_isEnvelope node, stripped,
        root_of_not_isEnvelope fun inner => isEnvelope_strippedFields_iff.not.mpr (node inner)]
  | _ => rfl

/-! ## Values -/

/-- Whether a node has its keys sorted, each of them once. -/
def HasSortedKeys (j : Json) : Prop := ∀ fields, j = .obj fields → Json.Sorted fields

/-- Whether all nodes of a tree have their keys sorted. -/
def IsUnambiguous (tree : Json) : Prop := ∀ a j, at? tree a = some j → HasSortedKeys j

theorem isUnambiguous_iff {j : Json} :
    IsUnambiguous j ↔ HasSortedKeys j ∧ ∀ child ∈ children j, IsUnambiguous child :=
  forall_at?_iff

theorem exists_canonical_of_get? {fields : List (String × Json)} {key : String} {j : Json}
    (found : Json.get? (Json.sortFields (Json.canonicalFields fields)) key = some j) :
    ∃ k : Json, j = k.canonical := by
  have member := Json.mem_of_mem_sortFields (Json.mem_of_get?_eq_some found)
  rw [Json.canonicalFields_eq_map] at member
  obtain ⟨f, _, same⟩ := List.mem_map.mp member
  exact ⟨f.2, (congrArg Prod.snd same).symm⟩

theorem exists_canonical_of_mem_children {j child : Json} (member : child ∈ children j.canonical) :
    ∃ k : Json, child = k.canonical := by
  cases j with
  | obj fields =>
    rw [Json.canonical, children] at member
    split at member
    · rename_i items found
      obtain ⟨k, same⟩ := exists_canonical_of_get? found
      cases k with
      | arr given =>
        cases same
        rw [Json.canonicalItems_eq_map] at member
        obtain ⟨k, _, here⟩ := List.mem_map.mp member
        exact ⟨k, here.symm⟩
      | _ => cases same
    · cases member
  | _ => cases member

theorem isUnambiguous_canonical (j : Json) : IsUnambiguous j.canonical := by
  induction same : j.canonical using induction_children generalizing j with
  | node i ih =>
    subst same
    refine isUnambiguous_iff.mpr ⟨fun fields same => ?_, fun child member => ?_⟩
    · cases j with
      | obj fields =>
        cases same
        exact Json.sorted_sortFields _
      | _ => cases same
    · obtain ⟨k, rfl⟩ := exists_canonical_of_mem_children member
      exact ih _ member k rfl

theorem exists_root_canonical (j : Json) : ∃ k : Json, root j.canonical = k.canonical := by
  cases j with
  | obj fields =>
    rw [Json.canonical, root]
    split
    · rename_i found
      exact exists_canonical_of_get? found
    · exact ⟨.obj fields, rfl⟩
  | _ => exact ⟨_, rfl⟩

/-! ## The check -/

theorem childNodes?_strippedFields {fields : List (String × Json)} (sorted : Json.Sorted fields) :
    childNodes? (strippedFields fields) = (childNodes? fields).map (List.map stripped) := by
  rw [childNodes?, childNodes?, get?_strippedFields_children sorted]
  cases Json.get? fields "children" with
  | none => rfl
  | some content =>
    cases content with
    | arr items => exact congrArg some (strippedItems_eq_map items)
    | _ => rfl

theorem nodeName?_stripped (j : Json) : nodeName? (stripped j) = nodeName? j := by
  cases j with
  | obj fields =>
    show stringField? (strippedFields fields) "name" = stringField? fields "name"
    rw [stringField?, stringField?, get?_strippedFields_of_ne (by decide)]
  | _ => rfl

theorem nodeFault?_stripped {j : Json} (sorted : HasSortedKeys j) :
    nodeFault? (stripped j) = nodeFault? j := by
  cases j with
  | obj fields =>
    rw [stripped, nodeFault?, nodeFault?, stringField?, stringField?, stringField?, stringField?,
      get?_strippedFields_of_ne (by decide), get?_strippedFields_of_ne (by decide),
      childNodes?_strippedFields (sorted fields rfl), Option.isNone_map]
  | _ => rfl

theorem children_stripped {j : Json} (sorted : HasSortedKeys j) :
    children (stripped j) = (children j).map stripped := by
  cases j with
  | obj fields =>
    rw [stripped, children, children, get?_strippedFields_children (sorted fields rfl)]
    cases Json.get? fields "children" with
    | none => rfl
    | some content =>
      cases content with
      | arr items => exact strippedItems_eq_map items
      | _ => rfl
  | _ => rfl

/-- The check finds the same fault without the fields that it takes for no children. -/
theorem firstFault?_stripped {names : List String} {j : Json} (unambiguous : IsUnambiguous j) :
    firstFault? names (stripped j) = firstFault? names j := by
  induction j using induction_children generalizing names with
  | node j ih =>
    obtain ⟨sorted, below⟩ := isUnambiguous_iff.mp unambiguous
    rw [firstFault?_eq, firstFault?_eq names j, nodeFault?_stripped sorted, nodeName?_stripped,
      children_stripped sorted, List.findSome?_map]
    cases nodeFault? j with
    | some fault => rfl
    | none =>
      show List.findSome? _ _ = List.findSome? _ _
      rw [← List.head?_filterMap, ← List.head?_filterMap]
      exact congrArg List.head? (List.filterMap_congr fun child member =>
        ih child member (below child member))

/-! ## The reading -/

theorem strippedFields_eq_self {fields : List (String × Json)}
    (kept : ∀ f ∈ fields, f.1 = "children" → strippedContent? f.2 = some f.2) :
    strippedFields fields = fields := by
  induction fields with
  | nil => rfl
  | cons f fields ih =>
    obtain ⟨here, rest⟩ := List.forall_mem_cons.mp kept
    rw [strippedFields, ih rest]
    split
    · rename_i named
      rw [here named]
      rfl
    · rfl

/-- Where no node has `null` for its children, there is nothing to leave out. -/
theorem stripped_eq_self {j : Json} (unambiguous : IsUnambiguous j)
    (free : ∀ a k, at? j a = some k → ¬ HasNullChildren k) : stripped j = j := by
  induction j using induction_children with
  | node j ih =>
    obtain ⟨sorted, below⟩ := isUnambiguous_iff.mp unambiguous
    obtain ⟨own, inner⟩ := forall_at?_iff.mp free
    cases j with
    | obj fields =>
      refine congrArg Json.obj (strippedFields_eq_self fun f member named => ?_)
      have found : Json.get? fields "children" = some f.2 :=
        named ▸ Json.get?_eq_some_of_mem (sorted fields rfl) member
      cases content : f.2 with
      | null => exact absurd ⟨fields, rfl, content ▸ found⟩ own
      | arr items =>
        have listed : children (.obj fields) = items := by rw [children, found, content]
        have same : items.map stripped = items := (List.map_congr_left fun child inside =>
          ih child (listed ▸ inside) (below child (listed ▸ inside))
            (inner child (listed ▸ inside))).trans items.map_id
        rw [strippedContent?, strippedItems_eq_map, same]
      | _ => rfl
    | _ => rfl

/-- A tree that is built has no `null` for children. -/
theorem not_hasNullChildren_of_ofJson? {j : Json} {n : Node} (sound : IsFaultless j)
    (read : Node.ofJson? j = some n) {a : List Nat} {k : Json} (there : at? j a = some k) :
    ¬ HasNullChildren k := by
  induction a generalizing j n with
  | nil =>
    cases there
    rintro ⟨fields, rfl, null⟩
    obtain ⟨-, below⟩ := fields_of_ofJson? read
    rw [Json.orElse?, null] at below
    cases below
  | cons i a ih =>
    obtain ⟨own, inner⟩ := isFaultless_iff.mp sound
    obtain ⟨-, built⟩ := name_and_children_of_ofJson? own read
    obtain ⟨child, found, inside⟩ := Option.bind_eq_some_iff.mp there
    have item := map_getElem?_of_mapM built i
    rw [found, Option.map_some, eq_comm, Option.map_eq_some_iff] at item
    obtain ⟨m, -, made⟩ := item
    exact ih (inner child (List.mem_of_getElem? found)) made.symm inside

/-- Only nodes are changed in a document. -/
theorem withoutNullChildren_eq_self {j : Json}
    (same : stripped (root j.canonical) = root j.canonical) :
    withoutNullChildren j.canonical = j.canonical := by
  cases j with
  | obj given =>
    rw [Json.canonical] at same ⊢
    have sorted := Json.sorted_sortFields (Json.canonicalFields given)
    generalize Json.sortFields (Json.canonicalFields given) = fields at same sorted
    by_cases around : ∃ inner, IsEnvelope fields inner
    · obtain ⟨inner, envelope⟩ := around
      rw [root_of_isEnvelope envelope] at same
      rw [withoutNullChildren_of_isEnvelope envelope]
      refine congrArg Json.obj ((List.map_congr_left fun f member => ?_).trans fields.map_id)
      split
      · rename_i named
        have here : some f.2 = some inner := by
          rw [← envelope.2, ← named, Json.get?_eq_some_of_mem sorted member]
        cases here
        rw [same]
        rfl
      · rfl
    · have node := not_exists.mp around
      rw [root_of_not_isEnvelope node] at same
      rw [withoutNullChildren_of_not_isEnvelope node, same]
  | _ => rfl

/-- A document that is read has no `null` for the children of a node. -/
theorem not_hasNullChildren_of_ofValue? {value : Json} {n : Node} (read : ofValue? value = .ok n)
    {a : List Nat} {k : Json} (there : at? (root value) a = some k) : ¬ HasNullChildren k := by
  rw [ofValue?] at read
  split at read
  · cases read
  rename_i sound
  split at read
  · rename_i m built
    exact not_hasNullChildren_of_ofJson? (firstFault?_eq_none_iff.mp sound) built there
  · cases read

/-- Leaving out `null` for the children of nodes changes no answer about a malformed node, and
nothing at all where there is none to leave out.  A document that has some is not read, so that the
answers differ just if it could be read without them. -/
theorem ofValue?_withoutNullChildren_iff (j : Json) :
    let value := j.canonical
    let shorter := withoutNullChildren value
    let someNull := ∃ a k, at? (root value) a = some k ∧ HasNullChildren k
    (∀ path fault, ofValue? shorter = .error (.malformed path fault) ↔
      ofValue? value = .error (.malformed path fault)) ∧
    (¬ someNull → shorter = value) ∧
    (someNull → ∀ n, ofValue? value ≠ .ok n) ∧
    (ofValue? shorter = ofValue? value ↔ (someNull → ∀ n, ofValue? shorter ≠ .ok n)) := by
  intro value shorter someNull
  have unambiguous : IsUnambiguous (root value) := by
    obtain ⟨k, same⟩ := exists_root_canonical j
    exact same ▸ isUnambiguous_canonical k
  have faults : ∀ path fault, ofValue? shorter = .error (.malformed path fault) ↔
      ofValue? value = .error (.malformed path fault) := fun path fault => by
    rw [ofValue?_eq_malformed_iff, ofValue?_eq_malformed_iff, root_withoutNullChildren,
      firstFault?_stripped unambiguous]
  have unchanged : ¬ someNull → shorter = value := fun free =>
    withoutNullChildren_eq_self (stripped_eq_self unambiguous
      fun a k there null => free ⟨a, k, there, null⟩)
  have refused : someNull → ∀ n, ofValue? value ≠ .ok n := fun ⟨a, k, there, null⟩ n read =>
    not_hasNullChildren_of_ofValue? read there null
  refine ⟨faults, unchanged, refused, fun same null n read => ?_, fun other => ?_⟩
  · exact refused null n (same.symm.trans read)
  · by_cases null : someNull
    · -- Neither is read, so both are malformed in the same way or no tree for another reason.
      cases answer : ofValue? value with
      | ok n => exact absurd answer (refused null n)
      | error e =>
        cases e with
        | malformed path fault => exact (faults path fault).mpr answer
        | json =>
          cases answer' : ofValue? shorter with
          | ok n => exact absurd answer' (other null n)
          | error e =>
            cases e with
            | malformed path fault =>
              cases answer.symm.trans ((faults path fault).mp answer')
            | json => rfl
    · rw [unchanged null]

/-- A page with `null` for its children. -/
def pageOfNull : Json :=
  .obj [("children", .null), ("name", .str "Page"), ("type", .str "CANVAS")]

theorem null_children_refused :
    pageOfNull.canonical = pageOfNull ∧ ofValue? pageOfNull = .error .json ∧
      ofValue? (withoutNullChildren pageOfNull) = .ok ⟨Attributes.bare "Page" .canvas, []⟩ := by
  have sound : firstFault? [] (root pageOfNull) = none := by
    rw [firstFault?_eq]
    rfl
  have sound' : firstFault? [] (root (withoutNullChildren pageOfNull)) = none := by
    rw [firstFault?_eq]
    rfl
  refine ⟨rfl, ?_, ?_⟩
  · rw [ofValue?_of_isFaultless (firstFault?_eq_none_iff.mp sound), ofJson?_eq]
    rfl
  · rw [ofValue?_of_isFaultless (firstFault?_eq_none_iff.mp sound'), ofJson?_eq]
    rfl

end DesignTokens.Document
