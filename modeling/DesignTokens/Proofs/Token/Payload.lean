import DesignTokens.Proofs.Design.Json
import DesignTokens.Token.Payload

/-!
# Payloads in documents

The payloads of tokens are read as they are written.  For components this holds
at any depth.
-/

namespace DesignTokens

open Json

/-! ## Alternatives -/

instance : LawfulAlternatives TokenKind := ⟨fun a => by cases a <;> rfl⟩
instance : LawfulAlternatives PaintRole := ⟨fun a => by cases a <;> rfl⟩

/-! ## Colors -/

namespace ColorUse

instance : HasFinite ColorUse := ⟨fun u => IsFinite u.color⟩

def contents (u : ColorUse) : List (String × Option Json) :=
  u.color.contents ++ [("role", some (toJson u.role)), ("index", some (toJson u.index))]

instance : LawfulJson ColorUse where
  readsBack {u} finite := by
    have role : ReadsBack u.role := readsBack trivial
    have index : ReadsBack u.index := readsBack trivial
    have channels : IsFinite u.color := finite
    obtain ⟨red, green, blue, alpha⟩ := channels
    refine ReadsBack.of_contents (Color.knownFields ++ [Json.field "role", Json.field "index"])
      u.contents rfl rfl (by decide) (by decide)
      ⟨isSound_content (readsBack red), isSound_content (readsBack green),
        isSound_content (readsBack blue), isSound_content (readsBack alpha), isSound_content role,
        isSound_content index⟩ ?_
    intro sorted fields readable record found
    -- The channels stand among the fields of the color with its place.
    have color := Color.ofFields?_eq finite (found "r") (found "g") (found "b") (found "a")
    have role := orElse?_eq role (found "role") PaintRole.fill
    have index := orElse?_eq index (found "index") 0
    simp only [ofJson?, readable, record, Option.bind_eq_bind, Option.bind_some, color, role, index]
    rfl
  isFinite {j u} possible read := by
    cases j with
    | obj given =>
      simp only [ofJson?, Option.bind_eq_bind, Option.bind_eq_some_iff] at read
      obtain ⟨_, _, fields, record, _, color, _, _, _, _, ⟨⟩⟩ := read
      exact Color.isFinite_of_ofFields? (havePossible_of_record? possible record) color
    | _ => cases read

end ColorUse

/-! ## Text styles -/

namespace Typography

instance : HasFinite Typography where
  IsFinite t := IsFinite t.fontWeight ∧ IsFinite t.fontSize ∧ IsFinite t.letterSpacing ∧
    IsFinite t.lineHeight

theorem isFinite_standard : IsFinite standard :=
  ⟨by decide +kernel, by decide +kernel, by decide +kernel, by decide +kernel⟩

def contents (t : Typography) : List (String × Option Json) :=
  [("fontFamily", some (toJson t.fontFamily)), ("fontWeight", some (toJson t.fontWeight)),
    ("fontSize", some (toJson t.fontSize)), ("letterSpacing", some (toJson t.letterSpacing)),
    ("lineHeight", some (toJson t.lineHeight)),
    ("textDecoration", some (toJson t.textDecoration)), ("textCase", some (toJson t.textCase))]

instance : LawfulJson Typography where
  readsBack {t} finite := by
    obtain ⟨weight, size, spacing, height⟩ := finite
    have family : ReadsBack t.fontFamily := readsBack trivial
    have weight := readsBack weight
    have size := readsBack size
    have spacing := readsBack spacing
    have height := readsBack height
    have decoration : ReadsBack t.textDecoration := readsBack trivial
    have letters : ReadsBack t.textCase := readsBack trivial
    refine ReadsBack.of_contents TextStyle.knownFields t.contents rfl rfl (by decide) (by decide)
      ⟨isSound_content family, isSound_content weight, isSound_content size,
        isSound_content spacing, isSound_content height, isSound_content decoration,
        isSound_content letters⟩ ?_
    intro sorted fields _ record found
    have family := orElse?_eq family (found "fontFamily") standard.fontFamily
    have weight := orElse?_eq weight (found "fontWeight") standard.fontWeight
    have size := orElse?_eq size (found "fontSize") standard.fontSize
    have spacing := orElse?_eq spacing (found "letterSpacing") standard.letterSpacing
    have height := orElse?_eq height (found "lineHeight") standard.lineHeight
    have decoration := orElse?_eq decoration (found "textDecoration") standard.textDecoration
    have letters := orElse?_eq letters (found "textCase") standard.textCase
    simp only [ofJson?, record, Option.bind_eq_bind, Option.bind_some, family, weight, size,
      spacing, height, decoration, letters]
    rfl
  isFinite {j t} possible read := by
    simp only [ofJson?, Option.bind_eq_bind, Option.bind_eq_some_iff] at read
    obtain ⟨fields, record, _, _, _, weight, _, size, _, spacing, _, height, _, _, _, _, ⟨⟩⟩ := read
    have inside := havePossible_of_record? possible record
    obtain ⟨weight', size', spacing', height'⟩ := isFinite_standard
    exact ⟨isFinite_of_orElse? inside weight' weight, isFinite_of_orElse? inside size' size,
      isFinite_of_orElse? inside spacing' spacing, isFinite_of_orElse? inside height' height⟩

end Typography

/-! ## Layouts -/

namespace Layout

instance : HasFinite Layout where
  IsFinite l := IsFinite l.padding ∧ IsFinite l.itemSpacing ∧ IsFinite l.counterAxisSpacing

theorem isFinite_standard : IsFinite standard := ⟨nofun, nofun, nofun⟩

def contents (l : Layout) : List (String × Option Json) :=
  [("layoutMode", some (toJson l.mode)), ("layoutConstraint", some (toJson l.constraints)),
    ("padding", l.padding.map toJson), ("itemSpacing", l.itemSpacing.map toJson),
    ("counterAxisSpacing", l.counterAxisSpacing.map toJson)]

theorem toJson_eq (l : Layout) : toJson l = .obj (writtenFields l.contents) := by
  obtain ⟨mode, constraints, padding, item, counter⟩ := l
  cases padding <;> cases item <;> cases counter <;> rfl

instance : LawfulJson Layout where
  readsBack {l} finite := by
    obtain ⟨padding, item, counter⟩ := finite
    have mode : ReadsBack l.mode := readsBack trivial
    have constraints : ReadsBack l.constraints := readsBack trivial
    have padding := readsBack_of_mem padding
    have item := readsBack_of_mem item
    have counter := readsBack_of_mem counter
    refine ReadsBack.of_contents knownFields l.contents (toJson_eq l) rfl (by decide) (by decide)
      ⟨isSound_content mode, isSound_content constraints, isSound_optionContent padding,
        isSound_optionContent item, isSound_optionContent counter⟩ ?_
    intro sorted fields _ record found
    have mode := orElse?_eq mode (found "layoutMode") LayoutMode.none
    have constraints := orElse?_eq constraints (found "layoutConstraint") Constraints.topLeft
    have padding := optional?_eq padding (found "padding")
    have item := optional?_eq item (found "itemSpacing")
    have counter := optional?_eq counter (found "counterAxisSpacing")
    simp only [ofJson?, record, Option.bind_eq_bind, Option.bind_some, mode, constraints, padding,
      item, counter]
    rfl
  isFinite {j l} possible read := by
    simp only [ofJson?, Option.bind_eq_bind, Option.bind_eq_some_iff] at read
    obtain ⟨fields, record, _, _, _, _, _, padding, _, item, _, counter, ⟨⟩⟩ := read
    have inside := havePossible_of_record? possible record
    exact ⟨isFinite_of_optional? inside padding, isFinite_of_optional? inside item,
      isFinite_of_optional? inside counter⟩

end Layout

/-! ## Effects -/

namespace Shade

instance : HasFinite Shade where
  IsFinite s := IsFinite s.radius ∧ IsFinite s.spread ∧ IsFinite s.offset ∧ IsFinite s.color

def contents (s : Shade) : List (String × Option Json) :=
  [("type", some (toJson s.kind)), ("radius", some (toJson s.radius)),
    ("spread", s.spread.map toJson), ("offset", s.offset.map toJson),
    ("color", s.color.map toJson)]

theorem toJson_eq (s : Shade) : toJson s = .obj (writtenFields s.contents) := by
  obtain ⟨kind, radius, spread, offset, color⟩ := s
  cases spread <;> cases offset <;> cases color <;> rfl

instance : LawfulJson Shade where
  readsBack {s} finite := by
    obtain ⟨radius, spread, offset, color⟩ := finite
    have kind : ReadsBack s.kind := readsBack trivial
    have radius := readsBack radius
    have spread := readsBack_of_mem spread
    have offset := readsBack_of_mem offset
    have color := readsBack_of_mem color
    refine ReadsBack.of_contents knownFields s.contents (toJson_eq s) rfl (by decide) (by decide)
      ⟨isSound_content kind, isSound_content radius, isSound_optionContent spread,
        isSound_optionContent offset, isSound_optionContent color⟩ ?_
    intro sorted fields _ record found
    have kind := required?_eq kind (found "type")
    have radius := orElse?_eq radius (found "radius") 0.0
    have spread := optional?_eq spread (found "spread")
    have offset := optional?_eq offset (found "offset")
    have color := optional?_eq color (found "color")
    simp only [ofJson?, record, Option.bind_eq_bind, Option.bind_some, kind, radius, spread,
      offset, color]
    rfl
  isFinite {j s} possible read := by
    simp only [ofJson?, Option.bind_eq_bind, Option.bind_eq_some_iff] at read
    obtain ⟨fields, record, _, _, _, radius, _, spread, _, offset, _, color, ⟨⟩⟩ := read
    have inside := havePossible_of_record? possible record
    exact ⟨isFinite_of_orElse? inside (by decide +kernel) radius,
      isFinite_of_optional? inside spread, isFinite_of_optional? inside offset,
      isFinite_of_optional? inside color⟩

end Shade

/-! ## Components -/

namespace Appearance

instance : HasFinite Appearance where
  IsFinite a := IsFinite a.fills ∧ IsFinite a.strokes ∧ IsFinite a.effects ∧ IsFinite a.layout ∧
    IsFinite a.typography

theorem isFinite_standard : IsFinite standard :=
  ⟨nofun, nofun, nofun, Layout.isFinite_standard, nofun⟩

def contents (a : Appearance) : List (String × Option Json) :=
  [("fills", listContent? a.fills), ("strokes", listContent? a.strokes),
    ("effects", listContent? a.effects), ("layout", some (toJson a.layout)),
    ("typography", a.typography.map toJson)]

theorem toJson_eq (a : Appearance) : toJson a = .obj (writtenFields a.contents) := by
  obtain ⟨fills, strokes, effects, layout, typography⟩ := a
  cases fills <;> cases strokes <;> cases effects <;> cases typography <;> rfl

instance : LawfulJson Appearance where
  readsBack {a} finite := by
    obtain ⟨fills, strokes, effects, layout, typography⟩ := finite
    have fills := readsBack fills
    have strokes := readsBack strokes
    have effects := readsBack effects
    have layout := readsBack layout
    have typography := readsBack_of_mem typography
    refine ReadsBack.of_contents knownFields a.contents (toJson_eq a) rfl (by decide) (by decide)
      ⟨isSound_listContent fills, isSound_listContent strokes, isSound_listContent effects,
        isSound_content layout, isSound_optionContent typography⟩ ?_
    intro sorted fields _ record found
    have fills := orElse?_listContent fills (found "fills")
    have strokes := orElse?_listContent strokes (found "strokes")
    have effects := orElse?_listContent effects (found "effects")
    have layout := orElse?_eq layout (found "layout") Layout.standard
    have typography := optional?_eq typography (found "typography")
    simp only [ofJson?, record, Option.bind_eq_bind, Option.bind_some, fills, strokes, effects,
      layout, typography]
    rfl
  isFinite {j a} possible read := by
    simp only [ofJson?, Option.bind_eq_bind, Option.bind_eq_some_iff] at read
    obtain ⟨fields, record, _, fills, _, strokes, _, effects, _, layout, _, typography, ⟨⟩⟩ := read
    have inside := havePossible_of_record? possible record
    obtain ⟨fills', strokes', effects', layout', -⟩ := isFinite_standard
    exact ⟨isFinite_of_orElse? inside fills' fills, isFinite_of_orElse? inside strokes' strokes,
      isFinite_of_orElse? inside effects' effects, isFinite_of_orElse? inside layout' layout,
      isFinite_of_optional? inside typography⟩

end Appearance

namespace Component

mutual

/-- Whether all numbers of a component are finite, the ones of the components
inside it included. -/
def IsFinite : Component → Prop
  | ⟨_, _, _, _, styles, children⟩ => DesignTokens.IsFinite styles ∧ AreFinite children

/-- Whether all numbers of several components are finite. -/
def AreFinite : List Component → Prop
  | [] => True
  | c :: cs => IsFinite c ∧ AreFinite cs

end

instance : HasFinite Component := ⟨IsFinite⟩

theorem areFinite_iff {cs : List Component} : AreFinite cs ↔ DesignTokens.IsFinite cs := by
  induction cs with
  | nil => exact ⟨fun _ => List.forall_mem_nil _, fun _ => trivial⟩
  | cons c cs ih =>
    show IsFinite c ∧ AreFinite cs ↔ _
    rw [ih]
    exact List.forall_mem_cons.symm

theorem toJsons_eq_map (cs : List Component) : toJsons cs = cs.map toJson := by
  induction cs with
  | nil => rfl
  | cons c cs ih => rw [toJsons, ih, List.map_cons]

/-- The reading of a component, with the components inside it read as a list. -/
theorem ofJson?_eq (j : Json) : ofJson? j = (j.record? knownFields).bind (fun fields => do
    let id ← Json.orElse? fields "id" ""
    let name ← Json.required? fields "name"
    let key ← Json.orElse? fields "key" ""
    let remote ← Json.orElse? fields "remote" false
    let styles ← Json.orElse? fields "styles" Appearance.standard
    let children ← Json.orElse? fields "children" []
    return { id, name, key, remote, styles, children }) := by
  rw [ofJson?]
  split
  · rename_i missing
    rw [missing]
    rfl
  · rename_i fields found
    rw [found, Option.bind_some]
    refine bind_congr fun id => bind_congr fun name => bind_congr fun key =>
      bind_congr fun remote => bind_congr fun styles => ?_
    dsimp only
    -- The match on the children carries proofs of size for the recursion and reads a list.
    split
    · rename_i missing
      rw [orElse?, missing]
    · rename_i items given
      rw [orElse?, given]
      show items.attach.mapM (fun item => ofJson? item.1) >>= _ = items.mapM ofJson? >>= _
      rw [mapM_attach]
    · rename_i content other given
      rw [orElse?, given]
      cases content with
      | arr items => exact absurd rfl (other items)
      | _ => rfl

def contents (c : Component) : List (String × Option Json) :=
  [("id", some (DesignTokens.toJson c.id)), ("name", some (DesignTokens.toJson c.name)),
    ("key", some (DesignTokens.toJson c.key)), ("remote", some (DesignTokens.toJson c.remote)),
    ("styles", some (DesignTokens.toJson c.styles)), ("children", listContent? c.children)]

theorem toJson_eq (c : Component) : toJson c = .obj (writtenFields c.contents) := by
  obtain ⟨id, name, key, remote, styles, children⟩ := c
  rw [toJson, toJsons_eq_map]
  cases children <;> rfl

/-- A component is read back if the components inside it are. -/
theorem readsBack_of_children {c : Component} (styles : DesignTokens.IsFinite c.styles)
    (children : ∀ d ∈ c.children, ReadsBack d) : ReadsBack c := by
  have id : ReadsBack c.id := readsBack trivial
  have name : ReadsBack c.name := readsBack trivial
  have key : ReadsBack c.key := readsBack trivial
  have remote : ReadsBack c.remote := readsBack trivial
  have styles := readsBack styles
  have children := ReadsBack.of_forall children
  refine ReadsBack.of_contents knownFields c.contents (toJson_eq c) rfl (by decide) (by decide)
    ⟨isSound_content id, isSound_content name, isSound_content key, isSound_content remote,
      isSound_content styles, isSound_listContent children⟩ ?_
  intro sorted fields _ record found
  have id := orElse?_eq id (found "id") ""
  have name := required?_eq name (found "name")
  have key := orElse?_eq key (found "key") ""
  have remote := orElse?_eq remote (found "remote") false
  have styles := orElse?_eq styles (found "styles") Appearance.standard
  have children := orElse?_listContent children (found "children")
  show ofJson? (.obj fields) = some c
  simp only [ofJson?_eq, record, Option.bind_eq_bind, Option.bind_some, id, name, key, remote,
    styles, children]
  cases c
  rfl

mutual

theorem readsBack_of_isFinite : ∀ {c : Component}, IsFinite c → ReadsBack c
  | ⟨_, _, _, _, _, _⟩, ⟨styles, children⟩ =>
    readsBack_of_children styles (readsBack_of_areFinite children)

theorem readsBack_of_areFinite : ∀ {cs : List Component}, AreFinite cs → ∀ c ∈ cs, ReadsBack c
  | [], _ => List.forall_mem_nil _
  | _ :: _, ⟨first, rest⟩ =>
    List.forall_mem_cons.mpr ⟨readsBack_of_isFinite first, readsBack_of_areFinite rest⟩

end

/-- The components inside a component are read from smaller documents, so that
the induction is on the size of the document. -/
theorem isFinite_of_ofJson? {j : Json} {c : Component} (possible : IsPossible j)
    (read : ofJson? j = some c) : IsFinite c := by
  simp only [ofJson?_eq, Option.bind_eq_bind, Option.bind_eq_some_iff] at read
  obtain ⟨fields, record, _, _, _, _, _, _, _, _, _, styles, _, children, ⟨⟩⟩ := read
  have inside := havePossible_of_record? possible record
  refine ⟨isFinite_of_orElse? inside Appearance.isFinite_standard styles, ?_⟩
  rw [areFinite_iff]
  intro d member
  rw [orElse?] at children
  split at children
  · rename_i content found
    obtain ⟨items, rfl, item, here, read⟩ := exists_item_of_mem children member
    have part := isPossible_of_get? inside found
    have smaller : sizeOf item < sizeOf j := by
      have outer := sizeOf_lt_of_get? record found
      have inner := List.sizeOf_lt_of_mem here
      rw [Json.arr.sizeOf_spec] at outer
      omega
    exact isFinite_of_ofJson? (arePossible_iff.mp part item here) read
  · cases children
    cases member
termination_by sizeOf j

instance : LawfulJson Component := ⟨readsBack_of_isFinite, isFinite_of_ofJson?⟩

end Component

/-! ## Payloads -/

namespace Payload

instance : HasFinite Payload where
  IsFinite
    | .color use => IsFinite use
    | .typography text => IsFinite text
    | .spacing layout => IsFinite layout
    | .shadow shade => IsFinite shade
    | .component value => IsFinite value

theorem isSound_toJson {p : Payload} (finite : IsFinite p) : IsSound (toJson p) := by
  cases p with
  | color use => exact (readsBack (x := use) finite).sound
  | typography text => exact (readsBack (x := text) finite).sound
  | spacing layout => exact (readsBack (x := layout) finite).sound
  | shadow shade => exact (readsBack (x := shade) finite).sound
  | component value => exact (readsBack (x := value) finite).sound

/-- A payload is read back by its kind. -/
theorem ofJson?_toJson {p : Payload} (finite : IsFinite p) (sorted : Bool) :
    ofJson? p.kind ((toJson p).respell sorted) = some p := by
  cases p with
  | color use => exact congrArg (Option.map color) ((readsBack (x := use) finite).back sorted)
  | typography text =>
    exact congrArg (Option.map typography) ((readsBack (x := text) finite).back sorted)
  | spacing layout =>
    exact congrArg (Option.map spacing) ((readsBack (x := layout) finite).back sorted)
  | shadow shade =>
    exact congrArg (Option.map shadow) ((readsBack (x := shade) finite).back sorted)
  | component value =>
    exact congrArg (Option.map component) ((readsBack (x := value) finite).back sorted)

theorem isFinite_of_ofJson? {kind : TokenKind} {j : Json} {p : Payload} (possible : IsPossible j)
    (read : ofJson? kind j = some p) : IsFinite p := by
  cases kind <;>
  · obtain ⟨x, found, rfl⟩ := Option.map_eq_some_iff.mp read
    have finite := LawfulJson.isFinite possible found
    exact finite

end Payload

end DesignTokens
