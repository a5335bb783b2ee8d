import DesignTokens.Proofs.Extraction.Identity

/-!
# Reading ids

The id of a token can be read: without its kind and without the mark that tells
it apart from the other tokens of its node, it gives the names of the nodes from
the root down to its own one.  These are the name of the root and the path of the
token, whatever signs the names have.
-/

namespace DesignTokens

/-! ## Reading -/

/-- The name that a segment was made of. -/
def Segment.nameOf (segment : List Char) : String :=
  String.ofList (unescape (segment.takeWhile (· != '#')))

/-- What stands in front of the last colon of a text. -/
def dropField (cs : List Char) : List Char := (cs.reverse.dropWhile (· != ':')).tail.reverse

/-- The part of an id that tells the place of its token.  The kind stands in front of the
first colon, and behind the place of a color stand its role and its index, and behind
that of a shadow its index. -/
def placeOfId (id : List Char) : List Char :=
  let kind := id.takeWhile (· != ':')
  let rest := (id.dropWhile (· != ':')).tail
  if kind = "color".toList then dropField (dropField rest)
  else if kind = "shadow".toList then dropField rest
  else rest

/-- The names of the nodes that lead to the token with an id. -/
def namesOfId (id : String) : List String :=
  ((placeOfId id.toList).splitOn '/').map Segment.nameOf

/-! ## Marks and segments -/

theorem Segment.nameOf_numbered (n : Nat) (name : String) :
    nameOf (numbered n name).toList = name := by
  rw [nameOf, takeWhile_numbered, escape, String.toList_ofList, unescape_escape,
    String.ofList_toList]

theorem dropField_append {field : List Char} (absent : ':' ∉ field) (cs : List Char) :
    dropField (cs ++ ':' :: field) = cs := by
  have passed : ∀ c ∈ field.reverse, (c != ':') = true := by
    intro c member
    rw [bne_iff_ne]
    rintro rfl
    exact absent (List.mem_reverse.mp member)
  rw [dropField, List.reverse_append, List.reverse_cons, List.append_assoc,
    List.dropWhile_append_of_pos passed]
  simp

/-- Without kind and mark an id is the text of the place. -/
theorem placeOfId_id (p : Place) (m : Mark) : placeOfId (m.id p).toList = p.text.toList := by
  cases m with
  | color role index =>
    have fields : placeOfId ((Mark.color role index).id p).toList =
        dropField (dropField ((p.text.toList ++ ':' :: (Alternatives.name role).toList)
          ++ ':' :: Decimal.digits index)) := by
      simp [Mark.id, placeOfId]
    rw [fields, dropField_append (colon_not_mem_digits index), dropField_append role.colon_not_mem]
  | shadow index =>
    have fields : placeOfId ((Mark.shadow index).id p).toList =
        dropField (p.text.toList ++ ':' :: Decimal.digits index) := by
      simp [Mark.id, placeOfId]
    rw [fields, dropField_append (colon_not_mem_digits index)]
  | typography => simp [Mark.id, placeOfId]
  | layout => simp [Mark.id, placeOfId]
  | component => simp [Mark.id, placeOfId]

/-! ## Nodes and their places -/

/-- Whether the segments and the path of a place tell the same names from the root on, the
last of which is that of the node. -/
structure Place.Names (root : String) (p : Place) (n : Node) : Prop where
  names : p.segments.map (fun s => Segment.nameOf s.toList) = root :: p.path
  clean : ∀ s ∈ p.segments, '/' ∉ s.toList
  last : (root :: p.path).getLast? = some n.name

namespace Place

theorem names_root (n : Node) : (root n.name).Names n.name n where
  names := congrArg (· :: []) (Segment.nameOf_numbered 0 n.name)
  clean := List.forall_mem_singleton.mpr (Segment.slash_not_mem_numbered 0 n.name)
  last := rfl

/-- Both stacks of a place grow by the name of the child. -/
theorem names_child {first : String} {p : Place} {n : Node} (k : Nat) (m : Node)
    (known : p.Names first n) : (p.child m.name (Segment.numbered k m.name)).Names first m where
  names := by
    rw [child, List.map_append, known.names, List.map_singleton, Segment.nameOf_numbered]
    rfl
  clean := List.forall_mem_append.mpr
    ⟨known.clean, List.forall_mem_singleton.mpr (Segment.slash_not_mem_numbered k m.name)⟩
  last := by
    rw [child, ← List.cons_append, List.getLast?_concat]

/-- The id of a token tells the names of its place. -/
theorem Names.namesOfId_eq {first : String} {p : Place} {n : Node} (known : p.Names first n)
    (m : Mark) : namesOfId (m.id p) = first :: p.path := by
  have nonempty : p.segments ≠ [] := by
    intro nothing
    have names := known.names
    rw [nothing] at names
    cases names
  rw [namesOfId, placeOfId_id, splitOn_text nonempty known.clean, List.map_map]
  exact known.names

end Place

/-- The id of a token, read back, gives the name of the root and the path of the token.
Its last name is that of the token. -/
theorem namesOfId_of_mem_extract (options : ExtractionOptions) (root : Node) :
    ∀ t ∈ extract options root,
      namesOfId t.id = root.name :: t.path ∧ (namesOfId t.id).getLast? = some t.name := by
  intro t member
  -- The tokens have the ids, names and paths of the outline.
  have outlined : (t.id, t.name, t.path) ∈
      (root.outline options).map (fun t => (t.id, t.name, t.path)) := by
    rw [← map_extract (fun _ => rfl) options root]
    exact List.mem_map.mpr ⟨t, member, rfl⟩
  obtain ⟨s, inside, same⟩ := List.mem_map.mp outlined
  obtain ⟨⟨p, n⟩, placed, block⟩ := List.mem_flatMap.mp inside
  obtain ⟨content, _, rfl⟩ := Node.exists_of_mem_block block
  have known : p.Names root.name n :=
    Node.forall_mem_placed (Place.Names root.name) (fun _ _ k m => Place.names_child k m)
      (Place.names_root root) (p, n) placed
  rw [Prod.mk.injEq, Prod.mk.injEq] at same
  obtain ⟨id, name, path⟩ := same
  have names : namesOfId t.id = root.name :: t.path := by
    rw [← id, ← path]
    exact known.namesOfId_eq content.1
  refine ⟨names, ?_⟩
  rw [names, ← name, ← path]
  exact known.last

/-- A page whose nodes are named like parts of ids. -/
def disguisedPage : Node :=
  let shaded : Attributes :=
    { Attributes.bare "" .frame with effects := [.shadow .dropShadow .zero 4 ⟨0, 0, 0, 1⟩] }
  let outlined : Attributes :=
    { Attributes.bare "%2F#1:fill:0" .rectangle with strokes := [.solid ⟨1, 0, 0, 1⟩] }
  ⟨.bare "color:a/b" .canvas, [⟨.bare "" .frame, []⟩, ⟨shaded, [⟨outlined, []⟩]⟩]⟩

theorem namesOfId_of_mem_extract_disguisedPage :
    (extract .deep disguisedPage).map Token.id =
      ["shadow:color:a%2Fb/#1:0", "color:color:a%2Fb/#1/%252F%231:fill:0:stroke:0"] ∧
    (extract .deep disguisedPage).map (fun t => namesOfId t.id) =
      [["color:a/b", ""], ["color:a/b", "", "%2F#1:fill:0"]] := by
  refine ⟨by decide +kernel, ?_⟩
  rw [List.map_congr_left fun t member =>
    (namesOfId_of_mem_extract .deep disguisedPage t member).1]
  decide +kernel

end DesignTokens
