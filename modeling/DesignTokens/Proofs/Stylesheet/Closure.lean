import DesignTokens.Proofs.Stylesheet.Reading

/-!
# Closed sheets

The utility classes of a sheet refer to its custom properties, and the sheet has
just the properties that they refer to.  A class may give way to a later one,
whose selector is the same.  A selector tells the family and the name of a class,
and these tell the references, so none gets lost.

Key definitions:

* `Sheet.IsClosed` says that a sheet has what its classes refer to, and no more.
* `Sheet.IsRegular` is the invariant behind it.
-/

namespace DesignTokens

/-! ## References -/

/-- The custom property that a value refers to. -/
def StyleValue.reference? : StyleValue → Option String
  | .property name => some name
  | .literal _ => none

/-- The custom properties that a utility class refers to. -/
def Utility.references (u : Utility) : List String :=
  u.declarations.filterMap (fun d => d.value.reference?)

/-- Whether the utility classes of a sheet and its custom properties fit together, with each class
under its own selector. -/
structure Sheet.IsClosed (s : Sheet) : Prop where
  defined : ∀ u ∈ s.utilities.values, ∀ name ∈ u.references, name ∈ s.properties.keys
  used : ∀ name ∈ s.properties.keys, ∃ u ∈ s.utilities.values, name ∈ u.references
  keyed : ∀ e ∈ s.utilities.entries, e.1 = e.2.selector
  apart : (s.utilities.values.map Utility.selector).Nodup

/-! ## Regular classes -/

/-- What the classes of a family refer to. -/
def UtilityFamily.references (family : UtilityFamily) (name : String) : List String :=
  match family with
  | .text | .background => [Sheet.colorStart ++ name]
  | .font => [Sheet.fontSizeStart ++ name, Sheet.lineHeightStart ++ name]

/-- Whether a utility class refers to what its family and its name tell. -/
def Utility.IsRegular (u : Utility) : Prop := u.references = u.family.references u.name

/-- Classes with one selector refer to the same properties. -/
theorem Utility.IsRegular.references_eq {u v : Utility} (left : u.IsRegular) (right : v.IsRegular)
    (same : u.selector = v.selector) : u.references = v.references := by
  obtain ⟨family, name⟩ := UtilityFamily.start_append_inj same
  rw [left, right, family, name]

/-! ## Regular sheets -/

namespace Sheet

/-- Whether a class of a sheet refers to a custom property. -/
def RefersTo (s : Sheet) (name : String) : Prop := ∃ u ∈ s.utilities.values, name ∈ u.references

/-- Whether all classes of a sheet are regular and under their own selectors. -/
def HasRegularClasses (s : Sheet) : Prop :=
  ∀ e ∈ s.utilities.entries, e.1 = e.2.selector ∧ e.2.IsRegular

/-- Whether a sheet has regular classes and just the properties that they refer to. -/
structure IsRegular (s : Sheet) : Prop where
  classes : s.HasRegularClasses
  properties : ∀ name, name ∈ s.properties.keys ↔ s.RefersTo name

variable {s : Sheet}

theorem mem_keys_define {name other value : String} :
    other ∈ (s.define name value).properties.keys ↔ other = name ∨ other ∈ s.properties.keys :=
  OrderedMap.mem_keys_insert

theorem mem_entries_addUtility {u : Utility} {e : String × Utility} :
    e ∈ (s.addUtility u).utilities.entries ↔
      e = (u.selector, u) ∨ e ∈ s.utilities.entries ∧ e.1 ≠ u.selector :=
  OrderedMap.mem_entries_insert

theorem HasRegularClasses.addUtility {u : Utility} (classes : s.HasRegularClasses)
    (regular : u.IsRegular) : (s.addUtility u).HasRegularClasses := by
  intro e member
  rcases mem_entries_addUtility.mp member with rfl | ⟨earlier, _⟩
  · exact ⟨rfl, regular⟩
  · exact classes e earlier

/-- A class that is added brings its references, and those of the class that gives way to it are
among them. -/
theorem refersTo_addUtility {u : Utility} (classes : s.HasRegularClasses) (regular : u.IsRegular)
    {name : String} :
    (s.addUtility u).RefersTo name ↔ name ∈ u.references ∨ s.RefersTo name := by
  constructor
  · rintro ⟨_, value, refers⟩
    obtain ⟨e, member, rfl⟩ := List.mem_map.mp value
    rcases mem_entries_addUtility.mp member with rfl | ⟨earlier, _⟩
    · exact .inl refers
    · exact .inr ⟨e.2, List.mem_map_of_mem earlier, refers⟩
  · have own : u ∈ (s.addUtility u).utilities.values :=
      List.mem_map_of_mem (mem_entries_addUtility.mpr (.inl rfl))
    rintro (refers | ⟨_, value, refers⟩)
    · exact ⟨u, own, refers⟩
    · obtain ⟨e, earlier, rfl⟩ := List.mem_map.mp value
      obtain ⟨key, old⟩ := classes e earlier
      by_cases replaced : e.1 = u.selector
      · rw [old.references_eq regular (key.symm.trans replaced)] at refers
        exact ⟨u, own, refers⟩
      · exact ⟨e.2, List.mem_map_of_mem (mem_entries_addUtility.mpr (.inr ⟨earlier, replaced⟩)),
          refers⟩

namespace IsRegular

protected theorem empty : Sheet.empty.IsRegular where
  classes := List.forall_mem_nil _
  properties name := by
    have nothing : ¬ Sheet.empty.RefersTo name := fun ⟨_, member, _⟩ => List.not_mem_nil member
    exact iff_of_false List.not_mem_nil nothing

theorem addColor (regular : s.IsRegular) (slug : String) (color : Color) :
    (s.addColor slug color).IsRegular := by
  let name := colorStart ++ slug
  have text : Utility.IsRegular ⟨.text, slug, [⟨"color", .property name⟩]⟩ := rfl
  have background : Utility.IsRegular
    ⟨.background, slug, [⟨"background-color", .property name⟩]⟩ := rfl
  let plain := s.define name color.exactCss
  have first : plain.HasRegularClasses := regular.classes
  have second := first.addUtility text
  refine ⟨second.addUtility background, fun key => ?_⟩
  calc
    _ ↔ key = name ∨ key ∈ s.properties.keys := mem_keys_define
    _ ↔ key ∈ [name] ∨ key ∈ [name] ∨ s.RefersTo key := by
      rw [regular.properties, List.mem_singleton, ← or_assoc, or_self]
    _ ↔ key ∈ [name] ∨ (plain.addUtility _).RefersTo key :=
      or_congr_right (refersTo_addUtility first text).symm
    _ ↔ _ := (refersTo_addUtility second background).symm

theorem addTypography (regular : s.IsRegular) (slug : String) (t : Typography) :
    (s.addTypography slug t).IsRegular := by
  let size := fontSizeStart ++ slug
  let height := lineHeightStart ++ slug
  have font : Utility.IsRegular ⟨.font, slug,
    [⟨"font-size", .property size⟩, ⟨"line-height", .property height⟩,
      ⟨"font-weight", .literal (Css.number t.fontWeight)⟩]⟩ := rfl
  have defined : ((s.define size (Css.pixels t.fontSize)).define height
    t.lineHeight.css).HasRegularClasses := regular.classes
  refine ⟨defined.addUtility font, fun key => ?_⟩
  calc
    _ ↔ key = height ∨ key = size ∨ key ∈ s.properties.keys :=
      mem_keys_define.trans (or_congr_right mem_keys_define)
    _ ↔ key ∈ [size, height] ∨ s.RefersTo key := by
      rw [regular.properties, List.mem_pair, or_assoc, or_left_comm]
    _ ↔ _ := (refersTo_addUtility defined font).symm

/-- A token keeps a sheet regular, whatever is in the sheet already. -/
theorem add (regular : s.IsRegular) (t : Token) : (s.add t).IsRegular := by
  rw [Sheet.add]
  cases t.payload with
  | color use => exact regular.addColor t.slug use.color
  | typography text => exact regular.addTypography t.slug text
  | spacing _ => exact regular
  | shadow _ => exact regular
  | component _ => exact regular

/-- A regular sheet stays regular over all tokens. -/
theorem foldl_add (regular : s.IsRegular) (ts : List Token) : (ts.foldl Sheet.add s).IsRegular := by
  induction ts generalizing s with
  | nil => exact regular
  | cons t ts ih => exact ih (regular.add t)

theorem isClosed (regular : s.IsRegular) : s.IsClosed where
  defined u member name refers := (regular.properties name).mpr ⟨u, member, refers⟩
  used name := (regular.properties name).mp
  keyed e member := (regular.classes e member).1
  apart := by
    have keys : s.utilities.values.map Utility.selector = s.utilities.keys := by
      rw [OrderedMap.values, List.map_map, OrderedMap.keys]
      exact List.map_congr_left fun e member => (regular.classes e member).1.symm
    rw [keys]
    exact s.utilities.nodup

end IsRegular

/-- Whatever tokens a sheet is made of, in it each utility class refers to properties of the sheet,
each property is one that a class refers to, and each class is the only one with its selector. -/
theorem isClosed_ofTokens (ts : List Token) : (ofTokens ts).IsClosed :=
  (IsRegular.empty.foldl_add ts).isClosed

end Sheet

end DesignTokens
