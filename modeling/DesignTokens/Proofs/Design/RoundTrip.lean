import DesignTokens.Proofs.Design.Finite

/-!
# Documents read back

A tree is read back from the document that is written for it: what is left out
there is what a node without it has.  The document passes the checks of nodes
too, which know nothing of what is written.
-/

namespace DesignTokens

open Json

instance : LawfulAlternatives NodeKind := ⟨fun a => by cases a <;> rfl⟩

/-! ## Trees -/

namespace Node

instance : HasFinite Node := ⟨IsFinite⟩

theorem toJsons_eq_map (ns : List Node) : toJsons ns = ns.map toJson := by
  induction ns with
  | nil => rfl
  | cons n ns ih => rw [toJsons, ih, List.map_cons]

/-- The fields of a node, each with what is written there, if anything is. -/
def fieldContents (n : Node) : List (String × Option Json) :=
  [("id", some (DesignTokens.toJson n.own.id)), ("name", some (DesignTokens.toJson n.own.name)),
    ("type", some (DesignTokens.toJson n.own.kind)), ("children", listContent? n.children),
    ("fills", listContent? n.own.fills), ("strokes", listContent? n.own.strokes),
    ("effects", listContent? n.own.effects), ("style", n.own.style.map DesignTokens.toJson),
    ("characters", n.own.characters.map DesignTokens.toJson),
    ("layoutMode", n.own.layoutMode.map DesignTokens.toJson),
    ("paddingTop", n.own.paddingTop.map DesignTokens.toJson),
    ("paddingRight", n.own.paddingRight.map DesignTokens.toJson),
    ("paddingBottom", n.own.paddingBottom.map DesignTokens.toJson),
    ("paddingLeft", n.own.paddingLeft.map DesignTokens.toJson),
    ("itemSpacing", n.own.itemSpacing.map DesignTokens.toJson),
    ("counterAxisSpacing", n.own.counterAxisSpacing.map DesignTokens.toJson),
    ("constraints", n.own.constraints.map DesignTokens.toJson)]

theorem toJson_eq (n : Node) : toJson n = .obj (writtenFields n.fieldContents) := by
  obtain ⟨own, children⟩ := n
  have nested : (if children.isEmpty then [] else [("children", Json.arr (toJsons children))]) =
      writtenFields [("children", listContent? children)] := by
    rw [toJsons_eq_map]
    cases children <;> rfl
  have leading : leadingFields own = writtenFields
      [("id", some (DesignTokens.toJson own.id)), ("name", some (DesignTokens.toJson own.name)),
        ("type", some (DesignTokens.toJson own.kind))] := rfl
  rw [toJson, nested, leading, trailingFields]
  simp only [listField_eq, optionalField_eq, ← writtenFields_append]
  rfl

/-- A node is read back if the nodes inside it are. -/
theorem readsBack_of_children {n : Node} (own : DesignTokens.IsFinite n.own)
    (children : ∀ m ∈ n.children, ReadsBack m) : ReadsBack n := by
  obtain ⟨fills, strokes, effects, style, top, right, bottom, left, item, counter⟩ := own
  have id : ReadsBack n.own.id := readsBack trivial
  have name : ReadsBack n.own.name := readsBack trivial
  have kind : ReadsBack n.own.kind := readsBack trivial
  have children := ReadsBack.of_forall children
  have fills := readsBack fills
  have strokes := readsBack strokes
  have effects := readsBack effects
  have style := readsBack_of_mem style
  have characters : ∀ x ∈ n.own.characters, ReadsBack x := fun _ _ => readsBack trivial
  have mode : ∀ x ∈ n.own.layoutMode, ReadsBack x := fun _ _ => readsBack trivial
  have top := readsBack_of_mem top
  have right := readsBack_of_mem right
  have bottom := readsBack_of_mem bottom
  have left := readsBack_of_mem left
  have item := readsBack_of_mem item
  have counter := readsBack_of_mem counter
  have constraints : ∀ x ∈ n.own.constraints, ReadsBack x := fun _ _ => readsBack trivial
  refine ReadsBack.of_contents knownFields n.fieldContents (toJson_eq n) rfl (by decide) (by decide)
    ⟨isSound_content id, isSound_content name, isSound_content kind, isSound_listContent children,
      isSound_listContent fills, isSound_listContent strokes, isSound_listContent effects,
      isSound_optionContent style, isSound_optionContent characters, isSound_optionContent mode,
      isSound_optionContent top, isSound_optionContent right, isSound_optionContent bottom,
      isSound_optionContent left, isSound_optionContent item, isSound_optionContent counter,
      isSound_optionContent constraints⟩ ?_
  intro sorted fields _ record found
  have id := orElse?_eq id (found "id") ""
  have name := required?_eq name (found "name")
  have kind := required?_eq kind (found "type")
  have children := orElse?_listContent children (found "children")
  have fills := orElse?_listContent fills (found "fills")
  have strokes := orElse?_listContent strokes (found "strokes")
  have effects := orElse?_listContent effects (found "effects")
  have style := optional?_eq style (found "style")
  have characters := optional?_eq characters (found "characters")
  have mode := optional?_eq mode (found "layoutMode")
  have top := optional?_eq top (found "paddingTop")
  have right := optional?_eq right (found "paddingRight")
  have bottom := optional?_eq bottom (found "paddingBottom")
  have left := optional?_eq left (found "paddingLeft")
  have item := optional?_eq item (found "itemSpacing")
  have counter := optional?_eq counter (found "counterAxisSpacing")
  have constraints := optional?_eq constraints (found "constraints")
  have own : attributes? fields = some n.own := by
    simp only [attributes?, Option.bind_eq_bind, Option.bind_some, id, name, kind, fills, strokes,
      effects, style, characters, mode, top, right, bottom, left, item, counter, constraints]
    rfl
  show ofJson? (.obj fields) = some n
  simp only [Document.ofJson?_eq, record, Option.bind_eq_bind, Option.bind_some, own, children]
  cases n
  rfl

mutual

theorem readsBack_of_isFinite : ∀ {n : Node}, n.IsFinite → ReadsBack n
  | ⟨_, _⟩, ⟨own, children⟩ => readsBack_of_children own (readsBack_of_areFinite children)

theorem readsBack_of_areFinite : ∀ {ns : List Node}, AreFinite ns → ∀ n ∈ ns, ReadsBack n
  | [], _ => List.forall_mem_nil _
  | _ :: _, ⟨first, rest⟩ =>
    List.forall_mem_cons.mpr ⟨readsBack_of_isFinite first, readsBack_of_areFinite rest⟩

end

instance : LawfulJson Node := ⟨readsBack_of_isFinite, isFinite_of_ofJson?⟩

end Node

/-! ## Checks -/

namespace Document

open Node (fieldContents)

/-- Either spelling of the document of a tree is an object with the contents of the root. -/
theorem exists_respell_toJson (sorted : Bool) (n : Node) :
    ∃ fields, (toJson n).respell sorted = .obj fields ∧
      ∀ name, get? fields name = (n.fieldContents.lookup name).join.map (respell sorted) := by
  have distinct : (n.fieldContents.map Prod.fst).Nodup := by
    show (Node.knownFields.map Field.name).Nodup
    decide
  have written : toJson n = .obj (writtenFields n.fieldContents) := Node.toJson_eq n
  obtain ⟨fields, same, -, -, found⟩ :=
    exists_respell_obj sorted (nodup_keys_writtenFields distinct)
  rw [written]
  exact ⟨fields, same, fun name => by rw [found, get?_writtenFields distinct]⟩

theorem respell_str (sorted : Bool) (s : String) : (Json.str s).respell sorted = .str s := by
  cases sorted <;> rfl

/-- The document of a node is without fault, and its children are those of the node. -/
theorem nodeFault?_respell_toJson (sorted : Bool) (n : Node) :
    nodeFault? ((toJson n).respell sorted) = none ∧
      children ((toJson n).respell sorted)
        = n.children.map (fun m => (toJson m).respell sorted) := by
  obtain ⟨fields, same, found⟩ := exists_respell_toJson sorted n
  have name : stringField? fields "name" = some n.own.name := by
    have content : get? fields "name" = some ((Json.str n.own.name).respell sorted) := found "name"
    rw [stringField?, content, respell_str]
  have kind : stringField? fields "type" = some (Alternatives.name n.own.kind) := by
    have content : get? fields "type" =
      some ((Json.str (Alternatives.name n.own.kind)).respell sorted) := found "type"
    rw [stringField?, content, respell_str]
  have nested :
      childNodes? fields = some (n.children.map (fun m => (toJson m).respell sorted)) := by
    have content : get? fields "children" = (listContent? n.children).map (respell sorted) :=
      found "children"
    rw [childNodes?, content]
    cases n.children with
    | nil => rfl
    | cons m ms =>
      have items : (listContent? (m :: ms)).map (respell sorted) =
          some (.arr (((m :: ms).map toJson).map (respell sorted))) :=
        congrArg some (respell_arr sorted _)
      rw [items, List.map_map]
      rfl
  rw [same]
  exact ⟨nodeFault?_eq_none_iff.mpr ⟨fields, _, _, _, rfl, name, kind, nested⟩,
    childNodes?_of_some nested⟩

mutual

theorem isFaultless_respell_toJson (sorted : Bool) :
    ∀ n : Node, IsFaultless ((toJson n).respell sorted)
  | ⟨own, children⟩ => by
    obtain ⟨sound, nested⟩ := nodeFault?_respell_toJson sorted ⟨own, children⟩
    refine isFaultless_iff.mpr ⟨sound, ?_⟩
    rw [nested]
    exact List.forall_mem_map.mpr (forall_isFaultless_respell_toJson sorted children)

theorem forall_isFaultless_respell_toJson (sorted : Bool) :
    ∀ ns : List Node, ∀ n ∈ ns, IsFaultless ((toJson n).respell sorted)
  | [] => List.forall_mem_nil _
  | n :: ns => List.forall_mem_cons.mpr
    ⟨isFaultless_respell_toJson sorted n, forall_isFaultless_respell_toJson sorted ns⟩

end

/-- What is written for a tree is no envelope around another one. -/
theorem root_respell_toJson (sorted : Bool) (n : Node) :
    root ((toJson n).respell sorted) = (toJson n).respell sorted := by
  obtain ⟨fields, same, found⟩ := exists_respell_toJson sorted n
  have kind : get? fields "type" = some ((toJson n.own.kind).respell sorted) := found "type"
  rw [same, root, kind]

theorem ofValue?_respell_toJson {n : Node} (finite : n.IsFinite) (sorted : Bool) :
    ofValue? ((toJson n).respell sorted) = .ok n := by
  have back := (readsBack (x := n) finite).back sorted
  have faultless := isFaultless_respell_toJson sorted n
  rw [← root_respell_toJson] at faultless
  rw [ofValue?_of_isFaultless faultless, root_respell_toJson]
  exact congrArg (fun read : Option Node => read.elim (.error DocumentError.json) Except.ok) back

/-- A tree with finite numbers is read back from the document that is written for it, as it
is written and as a value with sorted keys.  What was accepted as a document gives such a
tree, be it a node or an envelope around one, so that reading, writing and reading again
comes to the same as reading once. -/
theorem documents_read_as_written :
    (∀ n : Node, n.IsFinite →
      ofValue? (toJson n) = .ok n ∧ (toJson n).value?.map ofValue? = some (.ok n)) ∧
    ∀ (j : Json) (n : Node), j.IsPossible → ofValue? j = .ok n →
      ofValue? (toJson n) = .ok n ∧ (toJson n).value?.map ofValue? = some (.ok n) := by
  have both {n : Node} (finite : n.IsFinite) :
      ofValue? (toJson n) = .ok n ∧ (toJson n).value?.map ofValue? = some (.ok n) := by
    refine ⟨ofValue?_respell_toJson finite false, ?_⟩
    rw [value?_of_isSound (readsBack (x := n) finite).sound]
    exact congrArg some (ofValue?_respell_toJson finite true)
  exact ⟨fun _ finite => both finite,
    fun _ _ possible accepted => both (isFinite_of_ofValue? possible accepted)⟩

/-- A page with a heavy text, in lines of one and a half times its size. -/
def noticePage : Node :=
  let notice : Attributes :=
    { Attributes.bare "Notice" .text with
      style := some ⟨none, some 700.0, none, none, some (.measured 150.0 .percent), none, none⟩
      characters := some ""
      paddingTop := some (-0.0) }
  ⟨.bare "Page" .canvas, [⟨notice, []⟩]⟩

/-- An envelope around a node of an unknown kind, whose fill and its color are written as
arrays. -/
def badgeEnvelope : Json :=
  .obj
    [("document", .obj
      [("fills", .arr [.arr [.str "SOLID",
          .arr [.num (.whole 1), .num (.whole 0), .num (.whole 0)]]]),
        ("name", .str "Badge"), ("type", .str "STICKY")]),
      ("version", .num (.whole 7))]

/-- The node in that envelope. -/
def badge : Node :=
  let red := Color.opaqueOf (Decimal.floatOfInt 1) (Decimal.floatOfInt 0) (Decimal.floatOfInt 0)
  ⟨{ Attributes.bare "Badge" .other with fills := [.solid red] }, []⟩

theorem ofValue?_badgeEnvelope : ofValue? badgeEnvelope = .ok badge := by
  have faultless : IsFaultless (root badgeEnvelope) := by
    rw [← @firstFault?_eq_none_iff [], firstFault?_eq]
    rfl
  rw [ofValue?_of_isFaultless faultless, ofJson?_eq]
  rfl

theorem documents_read_as_written_noticePage :
    (ofValue? (toJson noticePage) = .ok noticePage ∧
      (toJson noticePage).value?.map ofValue? = some (.ok noticePage)) ∧
    ofValue? badgeEnvelope = .ok badge ∧ ofValue? (toJson badge) = .ok badge ∧
      (toJson badge).value?.map ofValue? = some (.ok badge) := by
  have style : IsFinite
      (⟨none, some 700.0, none, none, some (.measured 150.0 .percent), none, none⟩ : TextStyle) :=
    ⟨isFinite_some.mpr (by decide +kernel), isFinite_none, isFinite_none,
      isFinite_some.mpr (by decide +kernel : IsFinite (LineHeight.measured 150.0 .percent))⟩
  have padding : IsFinite (-0.0 : Float) := by decide +kernel
  have finite : noticePage.IsFinite :=
    ⟨Attributes.isFinite_bare "Page" .canvas,
      ⟨⟨isFinite_nil, isFinite_nil, isFinite_nil, isFinite_some.mpr style,
        isFinite_some.mpr padding, isFinite_none, isFinite_none, isFinite_none, isFinite_none,
        isFinite_none⟩, trivial⟩, trivial⟩
  have possible : badgeEnvelope.IsPossible := by
    refine ⟨⟨⟨⟨trivial, ⟨⟨?_, ?_⟩, ⟨?_, ?_⟩, ⟨?_, ?_⟩, trivial⟩, trivial⟩, trivial⟩, trivial,
      trivial, trivial⟩, ⟨?_, ?_⟩, trivial⟩ <;> decide
  exact ⟨documents_read_as_written.1 noticePage finite, ofValue?_badgeEnvelope,
    documents_read_as_written.2 badgeEnvelope badge possible ofValue?_badgeEnvelope⟩

end Document

end DesignTokens
