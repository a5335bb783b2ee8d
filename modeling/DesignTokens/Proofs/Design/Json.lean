import DesignTokens.Design.Arrangement
import DesignTokens.Design.Effect
import DesignTokens.Design.Paint
import DesignTokens.Design.TextStyle
import DesignTokens.Proofs.Json.Lawful

/-!
# Parts of a design in documents

The parts of a design that tokens hold are read as they are written.  For each
of them `contents` lists its fields under their names, so that what is left out
stands as `none`.
-/

namespace DesignTokens

open Json

/-! ## Alternatives -/

instance : LawfulAlternatives LineHeightUnit := ⟨fun a => by cases a <;> rfl⟩
instance : LawfulAlternatives TextDecoration := ⟨fun a => by cases a <;> rfl⟩
instance : LawfulAlternatives TextCase := ⟨fun a => by cases a <;> rfl⟩
instance : LawfulAlternatives PaintKind := ⟨fun a => by cases a <;> rfl⟩
instance : LawfulAlternatives EffectKind := ⟨fun a => by cases a <;> rfl⟩
instance : LawfulAlternatives LayoutMode := ⟨fun a => by cases a <;> rfl⟩
instance : LawfulAlternatives VerticalConstraint := ⟨fun a => by cases a <;> rfl⟩
instance : LawfulAlternatives HorizontalConstraint := ⟨fun a => by cases a <;> rfl⟩

/-! ## Colors -/

namespace Color

instance : HasFinite Color where
  IsFinite c := IsFinite c.red ∧ IsFinite c.green ∧ IsFinite c.blue ∧ IsFinite c.alpha

def contents (c : Color) : List (String × Option Json) :=
  [("r", some (toJson c.red)), ("g", some (toJson c.green)), ("b", some (toJson c.blue)),
    ("a", some (toJson c.alpha))]

theorem ofFields?_eq {c : Color} (finite : IsFinite c) {fields : List (String × Json)}
    {sorted : Bool} (red : get? fields "r" = some ((toJson c.red).respell sorted))
    (green : get? fields "g" = some ((toJson c.green).respell sorted))
    (blue : get? fields "b" = some ((toJson c.blue).respell sorted))
    (alpha : get? fields "a" = some ((toJson c.alpha).respell sorted)) :
    ofFields? fields = some c := by
  rw [ofFields?, required?_eq (readsBack finite.1) red,
    required?_eq (readsBack finite.2.1) green, required?_eq (readsBack finite.2.2.1) blue,
    orElse?_eq (readsBack finite.2.2.2) alpha]
  rfl

theorem isFinite_of_ofFields? {c : Color} {fields : List (String × Json)}
    (possible : HavePossible fields) (read : ofFields? fields = some c) : IsFinite c := by
  simp only [ofFields?, Option.bind_eq_bind, Option.bind_eq_some_iff, Option.pure_def] at read
  obtain ⟨_, red, _, green, _, blue, _, alpha, ⟨⟩⟩ := read
  exact ⟨isFinite_of_required? possible red, isFinite_of_required? possible green,
    isFinite_of_required? possible blue, isFinite_of_orElse? possible (by decide) alpha⟩

instance : LawfulJson Color where
  readsBack {c} finite := by
    refine ReadsBack.of_contents knownFields c.contents rfl rfl (by decide) (by decide)
      ⟨isSound_content (readsBack finite.1), isSound_content (readsBack finite.2.1),
        isSound_content (readsBack finite.2.2.1), isSound_content (readsBack finite.2.2.2)⟩ ?_
    intro sorted fields _ record found
    show (record? knownFields (.obj fields)).bind ofFields? = some c
    rw [record]
    exact ofFields?_eq finite (found "r") (found "g") (found "b") (found "a")
  isFinite {j c} possible read := by
    obtain ⟨fields, record, read⟩ := Option.bind_eq_some_iff.mp read
    exact isFinite_of_ofFields? (havePossible_of_record? possible record) read

end Color

/-! ## Offsets -/

instance : HasFinite Offset := ⟨fun o => IsFinite o.x ∧ IsFinite o.y⟩

def Offset.contents (o : Offset) : List (String × Option Json) :=
  [("x", some (toJson o.x)), ("y", some (toJson o.y))]

instance : LawfulJson Offset where
  readsBack {o} finite := by
    obtain ⟨x, y⟩ := finite
    refine ReadsBack.of_contents [Json.field "x", Json.field "y"] o.contents rfl rfl (by decide)
      (by decide) ⟨isSound_content (readsBack x), isSound_content (readsBack y)⟩ ?_
    intro sorted fields _ record found
    have x := required?_eq (readsBack x) (found "x")
    have y := required?_eq (readsBack y) (found "y")
    simp only [ofJson?, record, Option.bind_eq_bind, Option.bind_some, x, y]
    rfl
  isFinite {j o} possible read := by
    simp only [ofJson?, Option.bind_eq_bind, Option.bind_eq_some_iff] at read
    obtain ⟨fields, record, _, x, _, y, ⟨⟩⟩ := read
    have inside := havePossible_of_record? possible record
    exact ⟨isFinite_of_required? inside x, isFinite_of_required? inside y⟩

/-! ## Arrangement -/

instance : HasFinite Constraints := ⟨fun _ => True⟩

def Constraints.contents (c : Constraints) : List (String × Option Json) :=
  [("vertical", some (toJson c.vertical)), ("horizontal", some (toJson c.horizontal))]

instance : LawfulJson Constraints where
  readsBack {c} _ := by
    have vertical : ReadsBack c.vertical := readsBack trivial
    have horizontal : ReadsBack c.horizontal := readsBack trivial
    refine ReadsBack.of_contents [Json.field "vertical", Json.field "horizontal"] c.contents rfl rfl
      (by decide) (by decide) ⟨isSound_content vertical, isSound_content horizontal⟩ ?_
    intro sorted fields _ record found
    have vertical := required?_eq vertical (found "vertical")
    have horizontal := required?_eq horizontal (found "horizontal")
    simp only [ofJson?, record, Option.bind_eq_bind, Option.bind_some, vertical, horizontal]
    rfl
  isFinite _ _ := trivial

namespace Padding

instance : HasFinite Padding where
  IsFinite p := IsFinite p.top ∧ IsFinite p.right ∧ IsFinite p.bottom ∧ IsFinite p.left

def contents (p : Padding) : List (String × Option Json) :=
  [("top", some (toJson p.top)), ("right", some (toJson p.right)),
    ("bottom", some (toJson p.bottom)), ("left", some (toJson p.left))]

instance : LawfulJson Padding where
  readsBack {p} finite := by
    obtain ⟨top, right, bottom, left⟩ := finite
    refine ReadsBack.of_contents knownFields p.contents rfl rfl (by decide) (by decide)
      ⟨isSound_content (readsBack top), isSound_content (readsBack right),
        isSound_content (readsBack bottom), isSound_content (readsBack left)⟩ ?_
    intro sorted fields _ record found
    have top := required?_eq (readsBack top) (found "top")
    have right := required?_eq (readsBack right) (found "right")
    have bottom := required?_eq (readsBack bottom) (found "bottom")
    have left := required?_eq (readsBack left) (found "left")
    simp only [ofJson?, record, Option.bind_eq_bind, Option.bind_some, top, right, bottom, left]
    rfl
  isFinite {j p} possible read := by
    simp only [ofJson?, Option.bind_eq_bind, Option.bind_eq_some_iff] at read
    obtain ⟨fields, record, _, top, _, right, _, bottom, _, left, ⟨⟩⟩ := read
    have inside := havePossible_of_record? possible record
    exact ⟨isFinite_of_required? inside top, isFinite_of_required? inside right,
      isFinite_of_required? inside bottom, isFinite_of_required? inside left⟩

end Padding

/-! ## Paints -/

namespace Paint

instance : HasFinite Paint := ⟨fun p => IsFinite p.color ∧ IsFinite p.opacity⟩

def contents (p : Paint) : List (String × Option Json) :=
  [("type", some (toJson p.kind)), ("color", p.color.map toJson),
    ("opacity", p.opacity.map toJson), ("visible", p.visible.map toJson)]

theorem toJson_eq (p : Paint) : toJson p = .obj (writtenFields p.contents) := by
  obtain ⟨kind, color, opacity, visible⟩ := p
  cases color <;> cases opacity <;> cases visible <;> rfl

instance : LawfulJson Paint where
  readsBack {p} finite := by
    have kind : ReadsBack p.kind := readsBack trivial
    have color := readsBack_of_mem finite.1
    have opacity := readsBack_of_mem finite.2
    have visible : ∀ b ∈ p.visible, ReadsBack b := fun _ _ => readsBack trivial
    refine ReadsBack.of_contents knownFields p.contents (toJson_eq p) rfl (by decide) (by decide)
      ⟨isSound_content kind, isSound_optionContent color, isSound_optionContent opacity,
        isSound_optionContent visible⟩ ?_
    intro sorted fields _ record found
    have kind := required?_eq kind (found "type")
    have color := optional?_eq color (found "color")
    have opacity := optional?_eq opacity (found "opacity")
    have visible := optional?_eq visible (found "visible")
    simp only [ofJson?, record, Option.bind_eq_bind, Option.bind_some, kind, color, opacity,
      visible]
    rfl
  isFinite {j p} possible read := by
    simp only [ofJson?, Option.bind_eq_bind, Option.bind_eq_some_iff] at read
    obtain ⟨fields, record, _, _, _, color, _, opacity, _, _, ⟨⟩⟩ := read
    have inside := havePossible_of_record? possible record
    exact ⟨isFinite_of_optional? inside color, isFinite_of_optional? inside opacity⟩

end Paint

/-! ## Effects -/

namespace Effect

instance : HasFinite Effect where
  IsFinite e := IsFinite e.radius ∧ IsFinite e.spread ∧ IsFinite e.offset ∧ IsFinite e.color

def contents (e : Effect) : List (String × Option Json) :=
  [("type", some (toJson e.kind)), ("radius", some (toJson e.radius)),
    ("spread", e.spread.map toJson), ("offset", e.offset.map toJson),
    ("color", e.color.map toJson), ("visible", e.visible.map toJson)]

theorem toJson_eq (e : Effect) : toJson e = .obj (writtenFields e.contents) := by
  obtain ⟨kind, radius, spread, offset, color, visible⟩ := e
  cases spread <;> cases offset <;> cases color <;> cases visible <;> rfl

instance : LawfulJson Effect where
  readsBack {e} finite := by
    obtain ⟨radius, spread, offset, color⟩ := finite
    have kind : ReadsBack e.kind := readsBack trivial
    have radius := readsBack radius
    have spread := readsBack_of_mem spread
    have offset := readsBack_of_mem offset
    have color := readsBack_of_mem color
    have visible : ∀ b ∈ e.visible, ReadsBack b := fun _ _ => readsBack trivial
    refine ReadsBack.of_contents knownFields e.contents (toJson_eq e) rfl (by decide) (by decide)
      ⟨isSound_content kind, isSound_content radius, isSound_optionContent spread,
        isSound_optionContent offset, isSound_optionContent color, isSound_optionContent visible⟩ ?_
    intro sorted fields _ record found
    have kind := required?_eq kind (found "type")
    have radius := orElse?_eq radius (found "radius") 0.0
    have spread := optional?_eq spread (found "spread")
    have offset := optional?_eq offset (found "offset")
    have color := optional?_eq color (found "color")
    have visible := optional?_eq visible (found "visible")
    simp only [ofJson?, record, Option.bind_eq_bind, Option.bind_some, kind, radius, spread,
      offset, color, visible]
    rfl
  isFinite {j e} possible read := by
    simp only [ofJson?, Option.bind_eq_bind, Option.bind_eq_some_iff] at read
    obtain ⟨fields, record, _, _, _, radius, _, spread, _, offset, _, color, _, _, ⟨⟩⟩ := read
    have inside := havePossible_of_record? possible record
    exact ⟨isFinite_of_orElse? inside (by decide) radius,
      isFinite_of_optional? inside spread, isFinite_of_optional? inside offset,
      isFinite_of_optional? inside color⟩

end Effect

/-! ## Line heights -/

namespace LineHeight

instance : HasFinite LineHeight := ⟨fun h => IsFinite h.value⟩

instance (h : LineHeight) : Decidable (IsFinite h) :=
  inferInstanceAs (Decidable (IsFinite h.value))

def contents (x : Float) (unit : LineHeightUnit) : List (String × Option Json) :=
  [("value", some (toJson x)), ("unit", some (toJson unit))]

instance : LawfulJson LineHeight where
  readsBack {h} finite := by
    cases h with
    | multiple x =>
      -- A multiple is written as the double itself, which no object is mistaken for.
      have back : ReadsBack x := readsBack finite
      have written : toJson (multiple x) = .num (.real x) := if_pos finite
      refine ⟨back.sound, back.given, fun sorted => ?_⟩
      rw [written]
      cases sorted <;> rfl
    | measured x unit =>
      have value : ReadsBack x := readsBack finite
      have unit' : ReadsBack unit := readsBack trivial
      refine ReadsBack.of_contents [Json.field "value", Json.field "unit"] (contents x unit) rfl rfl
        (by decide) (by decide) ⟨isSound_content value, isSound_content unit'⟩ ?_
      intro sorted fields readable record found
      have value := required?_eq value (found "value")
      have unit' := required?_eq unit' (found "unit")
      simp only [ofJson?, readable, record, Option.bind_eq_bind, Option.bind_some, value, unit']
      rfl
  isFinite {j h} possible read := by
    simp only [ofJson?] at read
    split at read
    · cases read
    · split at read
      · cases read
        exact Number.IsPossible.isFinite_toFloat possible
      · simp only [Option.bind_eq_bind, Option.bind_eq_some_iff] at read
        obtain ⟨fields, record, _, value, _, _, ⟨⟩⟩ := read
        have finite := isFinite_of_required? (havePossible_of_record? possible record) value
        exact finite
      · cases read

end LineHeight

/-! ## Text styles -/

namespace TextStyle

instance : HasFinite TextStyle where
  IsFinite s := IsFinite s.fontWeight ∧ IsFinite s.fontSize ∧ IsFinite s.letterSpacing ∧
    IsFinite s.lineHeight

def contents (s : TextStyle) : List (String × Option Json) :=
  [("fontFamily", s.fontFamily.map toJson), ("fontWeight", s.fontWeight.map toJson),
    ("fontSize", s.fontSize.map toJson), ("letterSpacing", s.letterSpacing.map toJson),
    ("lineHeight", s.lineHeight.map toJson), ("textDecoration", s.textDecoration.map toJson),
    ("textCase", s.textCase.map toJson)]

theorem toJson_eq (s : TextStyle) : toJson s = .obj (writtenFields s.contents) := by
  show Json.obj (_ ++ _) = _
  simp only [optionalField_eq, ← writtenFields_append]
  rfl

instance : LawfulJson TextStyle where
  readsBack {s} finite := by
    obtain ⟨weight, size, spacing, height⟩ := finite
    have family : ∀ x ∈ s.fontFamily, ReadsBack x := fun _ _ => readsBack trivial
    have weight := readsBack_of_mem weight
    have size := readsBack_of_mem size
    have spacing := readsBack_of_mem spacing
    have height := readsBack_of_mem height
    have decoration : ∀ x ∈ s.textDecoration, ReadsBack x := fun _ _ => readsBack trivial
    have letters : ∀ x ∈ s.textCase, ReadsBack x := fun _ _ => readsBack trivial
    refine ReadsBack.of_contents knownFields s.contents (toJson_eq s) rfl (by decide) (by decide)
      ⟨isSound_optionContent family, isSound_optionContent weight, isSound_optionContent size,
        isSound_optionContent spacing, isSound_optionContent height,
        isSound_optionContent decoration, isSound_optionContent letters⟩ ?_
    intro sorted fields _ record found
    have family := optional?_eq family (found "fontFamily")
    have weight := optional?_eq weight (found "fontWeight")
    have size := optional?_eq size (found "fontSize")
    have spacing := optional?_eq spacing (found "letterSpacing")
    have height := optional?_eq height (found "lineHeight")
    have decoration := optional?_eq decoration (found "textDecoration")
    have letters := optional?_eq letters (found "textCase")
    simp only [ofJson?, record, Option.bind_eq_bind, Option.bind_some, family, weight, size,
      spacing, height, decoration, letters]
    rfl
  isFinite {j s} possible read := by
    simp only [ofJson?, Option.bind_eq_bind, Option.bind_eq_some_iff] at read
    obtain ⟨fields, record, _, _, _, weight, _, size, _, spacing, _, height, _, _, _, _, ⟨⟩⟩ := read
    have inside := havePossible_of_record? possible record
    exact ⟨isFinite_of_optional? inside weight, isFinite_of_optional? inside size,
      isFinite_of_optional? inside spacing, isFinite_of_optional? inside height⟩

end TextStyle

end DesignTokens
