import DesignTokens.Proofs.Css.Number
import DesignTokens.Proofs.Naming.Identifier
import DesignTokens.Proofs.Stylesheet.Properties
import DesignTokens.Proofs.Stylesheet.Statements
import DesignTokens.Proofs.Token.Slug
import DesignTokens.Stylesheet.Css

/-!
# What sheets are made of

The custom properties and utility classes of a sheet come from its tokens.
Names are made of slugs and values of numbers, so no text of a sheet has a mark
in it that means something to a stylesheet.
-/

namespace DesignTokens

open Decimal Naming

/-! ## Texts of tokens -/

/-- Characters of a kind that has no marks make a text without marks. -/
theorem isUnmarked_of_forall {P : Char → Bool} {text : String}
    (chars : ∀ c ∈ text.toList, P c = true) (apart : styleMarks.any P = false) :
    IsUnmarked text := by
  intro c member
  rw [Bool.eq_false_iff]
  intro mark
  exact List.any_eq_false.mp apart c (List.contains_iff_mem.mp mark) (chars c member)

theorem Decimal.IsNumeral.isUnmarked {text : String} (numeral : IsNumeral text) :
    IsUnmarked text :=
  isUnmarked_of_forall numeral (by decide)

theorem Token.isUnmarked_slug (t : Token) : IsUnmarked t.slug := by
  have chars : ∀ c ∈ t.slug.toList, (isSlugChar c || c == '-') = true := by
    intro c member
    rw [Bool.or_eq_true, beq_iff_eq]
    exact isSlugChar_of_isSlug t.isSlug_slug.1 member
  exact isUnmarked_of_forall chars (by decide)

/-! ## Texts of values -/

/-- The characters of what stylesheets write for numbers, colors and keywords. -/
def isValueChar (c : Char) : Bool :=
  c.isAlphanum || [' ', ',', '(', ')', '.', '%', '+', '-'].contains c

/-- Whether a text has no other characters. -/
def IsValueText (text : String) : Prop := ∀ c ∈ text.toList, isValueChar c = true

instance (text : String) : Decidable (IsValueText text) :=
  decidable_of_iff (text.toList.all isValueChar = true) List.all_eq_true

theorem IsValueText.append {s t : String} (first : IsValueText s) (second : IsValueText t) :
    IsValueText (s ++ t) := by
  rw [IsValueText, String.toList_append, List.forall_mem_append]
  exact ⟨first, second⟩

theorem IsValueText.isUnmarked {text : String} (value : IsValueText text) : IsUnmarked text :=
  isUnmarked_of_forall value (by decide)

theorem Decimal.IsNumeral.isValueText {text : String} (numeral : IsNumeral text) :
    IsValueText text := by
  intro c member
  have kind := numeral c member
  rw [isNumeralChar, Bool.or_eq_true, List.contains_iff_mem] at kind
  rcases kind with digit | sign
  · rw [isValueChar, Char.isAlphanum, digit, Bool.or_true, Bool.true_or]
  · have each : ['+', '-', '.', 'e', 'N', 'a', 'i', 'n', 'f'].all isValueChar = true := by decide
    exact List.all_eq_true.mp each c sign

theorem Css.isValueText_pixels (x : Float) : IsValueText (Css.pixels x) :=
  (Css.isNumeral_number x).isValueText.append (by decide)

theorem Css.isUnmarked_pixels (x : Float) : IsUnmarked (Css.pixels x) :=
  (isValueText_pixels x).isUnmarked

theorem Color.isValueText_exactCss (c : Color) : IsValueText c.exactCss := by
  have plain (x : Float) : IsValueText (Css.plain x) := (Css.isNumeral_plain x).isValueText
  have comma : IsValueText ", " := by decide
  rw [exactCss, functionText]
  refine IsValueText.append ?_ (by decide)
  refine IsValueText.append ?_ (plain _)
  refine IsValueText.append (IsValueText.append ?_ (plain _)) comma
  refine IsValueText.append (IsValueText.append ?_ (plain _)) comma
  exact IsValueText.append (IsValueText.append (by decide) (plain _)) comma

theorem Color.isUnmarked_exactCss (c : Color) : IsUnmarked c.exactCss :=
  c.isValueText_exactCss.isUnmarked

theorem LineHeight.isValueText_css (h : LineHeight) : IsValueText h.css := by
  have plain (x : Float) : IsValueText (Css.plain x) := (Css.isNumeral_plain x).isValueText
  cases h with
  | multiple x => exact plain x
  | measured x unit =>
    cases unit with
    | pixels => exact (plain x).append (by decide)
    | percent => exact (plain x).append (by decide)

theorem LineHeight.isUnmarked_css (h : LineHeight) : IsUnmarked h.css :=
  h.isValueText_css.isUnmarked

/-! ## Utility classes of tokens -/

/-- The utility classes of a token. -/
def Token.utilities (t : Token) : List Utility :=
  match t.payload with
  | .color _ =>
    [⟨.text, t.slug, [⟨"color", .property (Sheet.colorStart ++ t.slug)⟩]⟩,
      ⟨.background, t.slug, [⟨"background-color", .property (Sheet.colorStart ++ t.slug)⟩]⟩]
  | .typography text =>
    [⟨.font, t.slug,
      [⟨"font-size", .property (Sheet.fontSizeStart ++ t.slug)⟩,
        ⟨"line-height", .property (Sheet.lineHeightStart ++ t.slug)⟩,
        ⟨"font-weight", .literal (Css.number text.fontWeight)⟩]⟩]
  | _ => []

/-- The utility classes of a token with their selectors. -/
def Token.utilityEntries (t : Token) : List (String × Utility) :=
  t.utilities.map (fun u => (u.selector, u))

namespace Sheet

theorem utilities_add (s : Sheet) (t : Token) :
    (s.add t).utilities = s.utilities.insertAll t.utilityEntries := by
  obtain ⟨id, name, path, payload, usage⟩ := t
  cases payload <;> rfl

/-- The utility classes of a sheet are those of its tokens in their order. -/
theorem utilities_ofTokens (ts : List Token) :
    (ofTokens ts).utilities = .ofList (ts.flatMap Token.utilityEntries) :=
  ofTokens_collects rfl utilities_add ts

end Sheet

/-! ## Legible sheets -/

/-- Whether the value of a declaration can be told from its text: the name of a
property has no marks, and a text is a number. -/
def StyleValue.IsLegible : StyleValue → Prop
  | .property name => IsUnmarked name
  | .literal text => IsNumeral text

/-- Whether the rule of a utility class can be read again. -/
structure Utility.IsLegible (u : Utility) : Prop where
  name : IsUnmarked u.name
  shown : u.declarations ≠ []
  declarations : ∀ d ∈ u.declarations, IsLabel d.property ∧ d.value.IsLegible

/-- Whether a sheet can be read again. -/
structure Sheet.IsLegible (s : Sheet) : Prop where
  properties : ∀ v ∈ s.properties.entries, IsUnmarked v.1 ∧ IsUnmarked v.2
  utilities : ∀ e ∈ s.utilities.entries, e.1 = e.2.selector ∧ e.2.IsLegible

theorem isLegible_of_mem_utilities {t : Token} {u : Utility} (member : u ∈ t.utilities) :
    u.IsLegible := by
  have color : IsUnmarked (Sheet.colorStart ++ t.slug) :=
    IsUnmarked.append (by decide) t.isUnmarked_slug
  have size : IsUnmarked (Sheet.fontSizeStart ++ t.slug) :=
    IsUnmarked.append (by decide) t.isUnmarked_slug
  have height : IsUnmarked (Sheet.lineHeightStart ++ t.slug) :=
    IsUnmarked.append (by decide) t.isUnmarked_slug
  have label (property : String) (unmarked : IsUnmarked property)
      (start : property.toList.head?.any (fun c => c ≠ ' ' && c ≠ '/') = true) :
      IsLabel property := isLabel_of_head unmarked start
  rw [Token.utilities] at member
  cases payload : t.payload with
  | color use =>
    simp only [payload, List.mem_cons, List.not_mem_nil, or_false] at member
    rcases member with rfl | rfl
    · exact ⟨t.isUnmarked_slug, List.cons_ne_nil _ _,
        List.forall_mem_singleton.mpr ⟨label "color" (by decide) (by decide), color⟩⟩
    · exact ⟨t.isUnmarked_slug, List.cons_ne_nil _ _,
        List.forall_mem_singleton.mpr ⟨label "background-color" (by decide) (by decide), color⟩⟩
  | typography text =>
    simp only [payload, List.mem_singleton] at member
    subst member
    refine ⟨t.isUnmarked_slug, List.cons_ne_nil _ _, fun d inside => ?_⟩
    simp only [List.mem_cons, List.not_mem_nil, or_false] at inside
    rcases inside with rfl | rfl | rfl
    · exact ⟨label "font-size" (by decide) (by decide), size⟩
    · exact ⟨label "line-height" (by decide) (by decide), height⟩
    · exact ⟨label "font-weight" (by decide) (by decide), Css.isNumeral_number text.fontWeight⟩
  | _ => simp [payload] at member

theorem isUnmarked_of_mem_propertyEntries {t : Token} {v : String × String}
    (member : v ∈ t.propertyEntries) : IsUnmarked v.1 ∧ IsUnmarked v.2 := by
  have name {start : String} (unmarked : IsUnmarked start) : IsUnmarked (start ++ t.slug) :=
    unmarked.append t.isUnmarked_slug
  rw [Token.propertyEntries] at member
  cases payload : t.payload with
  | color use =>
    simp only [payload, List.mem_singleton] at member
    subst member
    exact ⟨name (by decide), use.color.isUnmarked_exactCss⟩
  | typography text =>
    simp only [payload, List.mem_cons, List.not_mem_nil, or_false] at member
    rcases member with rfl | rfl
    · exact ⟨name (by decide), Css.isUnmarked_pixels _⟩
    · exact ⟨name (by decide), text.lineHeight.isUnmarked_css⟩
  | _ => simp [payload] at member

/-- Whatever the tokens are called, their sheet can be read again. -/
theorem Sheet.isLegible_ofTokens (ts : List Token) : (ofTokens ts).IsLegible where
  properties v member := by
    rw [properties_ofTokens] at member
    obtain ⟨t, _, given⟩ := List.mem_flatMap.mp (OrderedMap.mem_of_mem_entries_ofList member)
    exact isUnmarked_of_mem_propertyEntries given
  utilities e member := by
    rw [utilities_ofTokens] at member
    obtain ⟨t, _, given⟩ := List.mem_flatMap.mp (OrderedMap.mem_of_mem_entries_ofList member)
    obtain ⟨u, inside, rfl⟩ := List.mem_map.mp given
    exact ⟨rfl, isLegible_of_mem_utilities inside⟩

end DesignTokens
