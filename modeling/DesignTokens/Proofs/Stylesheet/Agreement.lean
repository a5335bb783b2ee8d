import DesignTokens.Proofs.Stylesheet.Properties

/-!
# Sheets and token sets agree

A sheet and a token set of the same tokens name the same colors and the same text
styles in the same order, and under each name both have what the last token of
that name says.
-/

namespace DesignTokens

namespace Token

/-- Whether a token is the last one of its kind in a list that has a slug. -/
def IsLast (t : Token) (kind : TokenKind) (slug : String) (ts : List Token) : Prop :=
  t.kind = kind ∧ t.slug = slug ∧
    ∃ before after, ts = before ++ t :: after ∧ ∀ u ∈ after, u.kind = kind → u.slug ≠ slug

theorem exists_isLast {kind : TokenKind} {slug : String} {ts : List Token}
    (occurs : ∃ t ∈ ts, t.kind = kind ∧ t.slug = slug) :
    ∃ t : Token, t.IsLast kind slug ts := by
  obtain ⟨before, t, after, split, ⟨kinds, slugs⟩, last⟩ := exists_last occurs
  exact ⟨t, kinds, slugs, before, after, split, fun u later kinds slugs =>
    last u later ⟨kinds, slugs⟩⟩

/-- A token has the color property of a slug just if it is a color with the slug. -/
theorem colorName_mem {t : Token} {slug : String} :
    Sheet.colorStart ++ slug ∈ t.propertyEntries.map Prod.fst ↔
      t.kind = .color ∧ t.slug = slug := by
  rw [propertyEntries, kind]
  cases t.payload <;> simp [Payload.kind, Sheet.start_append_inj, eq_comm]

/-- A token has the properties of a text style just if it is one with the slug. -/
theorem textName_mem {t : Token} {start slug : String} (kind : start ∈ Sheet.textStarts) :
    start ++ slug ∈ t.propertyEntries.map Prod.fst ↔ t.kind = .typography ∧ t.slug = slug := by
  rw [propertyEntries, Token.kind]
  rcases List.mem_pair.mp kind with rfl | rfl <;> cases t.payload <;>
    simp [Payload.kind, Sheet.start_append_inj, eq_comm]

theorem colorKey_mem {t : Token} {slug : String} :
    slug ∈ t.entryOfColor?.toList.map Prod.fst ↔ t.kind = .color ∧ t.slug = slug := by
  rw [entryOfColor?, color?, kind]
  cases t.payload <;> simp [Payload.kind, eq_comm]

theorem typographyKey_mem {t : Token} {slug : String} :
    slug ∈ t.entryOfTypography?.toList.map Prod.fst ↔ t.kind = .typography ∧ t.slug = slug := by
  rw [entryOfTypography?, typography?, kind]
  cases t.payload <;> simp [Payload.kind, eq_comm]

end Token

theorem mem_keys_ofList_filterMap {α : Type} {entryOf? : Token → Option (String × α)}
    {ts : List Token} {key : String} :
    key ∈ (OrderedMap.ofList (ts.filterMap entryOf?)).keys ↔
      ∃ t ∈ ts, key ∈ (entryOf? t).toList.map Prod.fst := by
  rw [OrderedMap.keys_ofList, List.mem_eraseDups, List.filterMap_eq_flatMap_toList,
    List.map_flatMap, List.mem_flatMap]

/-! ## Values -/

/-- Sheet and token set have the color of the last token of a slug. -/
theorem get?_color_of_isLast {ts : List Token} {t : Token} {slug : String}
    (last : t.IsLast .color slug ts) :
    ∃ use, t.payload = .color use ∧
      (Sheet.ofTokens ts).properties.get? (Sheet.colorStart ++ slug) = some use.color.exactCss ∧
      (TokenSet.ofTokens ts).colors.get? slug = some use.color.roundedCss := by
  obtain ⟨kind, rfl, before, after, rfl, later⟩ := last
  cases payload : t.payload with
  | color use =>
    have property : t.propertyEntries =
        [] ++ (Sheet.colorStart ++ t.slug, use.color.exactCss) :: [] := by
      rw [Token.propertyEntries, payload]
      rfl
    have entry : t.entryOfColor?.toList = [] ++ (t.slug, use.color.roundedCss) :: [] := by
      rw [Token.entryOfColor?, Token.color?, payload]
      rfl
    rw [Sheet.properties_ofTokens, TokenSet.ofTokens_eq, List.filterMap_eq_flatMap_toList]
    refine ⟨use, rfl, ?_, ?_⟩
    · refine OrderedMap.get?_ofList_flatMap property (by simp) fun u member given => ?_
      obtain ⟨kinds, slugs⟩ := Token.colorName_mem.mp given
      exact later u member kinds slugs
    · refine OrderedMap.get?_ofList_flatMap entry (by simp) fun u member given => ?_
      obtain ⟨kinds, slugs⟩ := Token.colorKey_mem.mp given
      exact later u member kinds slugs
  | _ => simp [Token.kind, payload, Payload.kind] at kind

/-- Sheet and token set have the text style of the last token of a slug. -/
theorem get?_typography_of_isLast {ts : List Token} {t : Token} {slug : String}
    (last : t.IsLast .typography slug ts) :
    ∃ text, t.payload = .typography text ∧
      (Sheet.ofTokens ts).properties.get? (Sheet.fontSizeStart ++ slug) =
        some (Css.pixels text.fontSize) ∧
      (Sheet.ofTokens ts).properties.get? (Sheet.lineHeightStart ++ slug) =
        some text.lineHeight.css ∧
      (TokenSet.ofTokens ts).typography.get? slug = some (.ofTypography text) := by
  obtain ⟨kind, rfl, before, after, rfl, later⟩ := last
  cases payload : t.payload with
  | typography text =>
    have size : t.propertyEntries =
        [] ++ (Sheet.fontSizeStart ++ t.slug, Css.pixels text.fontSize)
          :: [(Sheet.lineHeightStart ++ t.slug, text.lineHeight.css)] := by
      rw [Token.propertyEntries, payload]
      rfl
    have height : t.propertyEntries =
        [(Sheet.fontSizeStart ++ t.slug, Css.pixels text.fontSize)]
          ++ (Sheet.lineHeightStart ++ t.slug, text.lineHeight.css) :: [] := size
    have entry : t.entryOfTypography?.toList = [] ++ (t.slug, .ofTypography text) :: [] := by
      rw [Token.entryOfTypography?, Token.typography?, payload]
      rfl
    rw [Sheet.properties_ofTokens, TokenSet.ofTokens_eq,
      List.filterMap_eq_flatMap_toList Token.entryOfTypography?]
    refine ⟨text, rfl, ?_, ?_, ?_⟩
    · -- The line height stands behind the font size, under a name of another kind.
      have apart : Sheet.fontSizeStart ++ t.slug ∉
          [(Sheet.lineHeightStart ++ t.slug, text.lineHeight.css)].map Prod.fst := by
        simp
      refine OrderedMap.get?_ofList_flatMap size apart fun u member given => ?_
      obtain ⟨kinds, slugs⟩ := (Token.textName_mem (by simp)).mp given
      exact later u member kinds slugs
    · refine OrderedMap.get?_ofList_flatMap height (by simp) fun u member given => ?_
      obtain ⟨kinds, slugs⟩ := (Token.textName_mem (by simp)).mp given
      exact later u member kinds slugs
    · refine OrderedMap.get?_ofList_flatMap entry (by simp) fun u member given => ?_
      obtain ⟨kinds, slugs⟩ := Token.typographyKey_mem.mp given
      exact later u member kinds slugs
  | _ => simp [Token.kind, payload, Payload.kind] at kind

/-! ## Names and values together -/

/-- The color properties of a sheet are the colors of the token set, and its font
sizes and its line heights are the text styles, all in the same order.  Under each
name both have the value of the last token of its kind with that slug: a color with
exact channels in the sheet and rounded ones in the token set, and a text style with
one and the same text for its size. -/
theorem properties_agree_tokenSet (ts : List Token) :
    let sheet := Sheet.ofTokens ts
    let set := TokenSet.ofTokens ts
    sheet.properties.keys.filterMap (behind? Sheet.colorStart) = set.colors.keys ∧
    sheet.properties.keys.filterMap (behind? Sheet.fontSizeStart) = set.typography.keys ∧
    sheet.properties.keys.filterMap (behind? Sheet.lineHeightStart) = set.typography.keys ∧
    (∀ slug ∈ set.colors.keys, ∃ t : Token, ∃ use,
      t.IsLast .color slug ts ∧ t.payload = .color use ∧
      sheet.properties.get? (Sheet.colorStart ++ slug) = some use.color.exactCss ∧
      set.colors.get? slug = some use.color.roundedCss) ∧
    ∀ slug ∈ set.typography.keys, ∃ t : Token, ∃ text entry,
      t.IsLast .typography slug ts ∧ t.payload = .typography text ∧
      set.typography.get? slug = some entry ∧ entry = .ofTypography text ∧
      sheet.properties.get? (Sheet.fontSizeStart ++ slug) = some entry.fontSize ∧
      sheet.properties.get? (Sheet.lineHeightStart ++ slug) = some text.lineHeight.css := by
  intro sheet set
  refine ⟨?_, ?_, ?_, ?_, ?_⟩
  · rw [← Sheet.map_fst_themePart, Sheet.map_fst_themePart_colorStart]
  · rw [← Sheet.map_fst_themePart, Sheet.map_fst_themePart_textStart (by simp)]
  · rw [← Sheet.map_fst_themePart, Sheet.map_fst_themePart_textStart (by simp)]
  · intro slug member
    simp only [set, TokenSet.ofTokens_eq, mem_keys_ofList_filterMap] at member
    obtain ⟨u, inside, given⟩ := member
    obtain ⟨t, last⟩ := Token.exists_isLast ⟨u, inside, Token.colorKey_mem.mp given⟩
    obtain ⟨use, payload, property, entry⟩ := get?_color_of_isLast last
    exact ⟨t, use, last, payload, property, entry⟩
  · intro slug member
    simp only [set, TokenSet.ofTokens_eq, mem_keys_ofList_filterMap] at member
    obtain ⟨u, inside, given⟩ := member
    obtain ⟨t, last⟩ := Token.exists_isLast ⟨u, inside, Token.typographyKey_mem.mp given⟩
    obtain ⟨text, payload, size, height, entry⟩ := get?_typography_of_isLast last
    exact ⟨t, text, _, last, payload, entry, rfl, size, height⟩

end DesignTokens
