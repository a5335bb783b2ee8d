import DesignTokens.Proofs.TokenSet.Buckets
import DesignTokens.Stylesheet.Tailwind

/-!
# Custom properties of sheets

The custom properties of a sheet come up in the order of the tokens, and their
names tell them apart by kind: behind the name of its kind, the name of a
property is the slug of its token.
-/

namespace DesignTokens

/-- The custom properties of a token. -/
def Token.propertyEntries (t : Token) : List (String × String) :=
  match t.payload with
  | .color use => [(Sheet.colorStart ++ t.slug, use.color.exactCss)]
  | .typography text =>
    [(Sheet.fontSizeStart ++ t.slug, Css.pixels text.fontSize),
      (Sheet.lineHeightStart ++ t.slug, text.lineHeight.css)]
  | _ => []

theorem behind?_eq_some_iff {start text rest : String} :
    behind? start text = some rest ↔ text = start ++ rest := by
  rw [behind?, Option.map_eq_some_iff]
  constructor
  · rintro ⟨cs, found, rfl⟩
    rw [List.isPrefixOf?_eq_some_iff_append_eq] at found
    rw [← String.toList_inj, ← found]
    simp
  · rintro rfl
    exact ⟨rest.toList, List.isPrefixOf?_eq_some_iff_append_eq.mpr (by simp), by simp⟩

@[simp] theorem behind?_append (start rest : String) : behind? start (start ++ rest) = some rest :=
  behind?_eq_some_iff.mpr rfl

namespace Sheet

/-- A map that each token adds its entries to has the entries of all tokens in their order. -/
theorem ofTokens_collects {κ α : Type} [DecidableEq κ] {part : Sheet → OrderedMap κ α}
    {origin : Token → List (κ × α)} (first : part empty = .empty)
    (step : ∀ s t, part (add s t) = (part s).insertAll (origin t)) (ts : List Token) :
    part (ofTokens ts) = .ofList (ts.flatMap origin) := by
  -- The induction needs the statement for every sheet that the tokens are added to.
  have each : ∀ s : Sheet, part (ts.foldl add s) = (part s).insertAll (ts.flatMap origin) := by
    induction ts with
    | nil => exact fun s => rfl
    | cons t ts ih =>
      intro s
      rw [List.foldl_cons, ih, step]
      simp only [OrderedMap.insertAll, List.flatMap_cons, List.foldl_append]
  rw [ofTokens, each, first]
  rfl

theorem properties_add (s : Sheet) (t : Token) :
    (s.add t).properties = s.properties.insertAll t.propertyEntries := by
  obtain ⟨id, name, path, payload, usage⟩ := t
  cases payload <;> rfl

/-- The custom properties of a sheet are those of its tokens in their order. -/
theorem properties_ofTokens (ts : List Token) :
    (ofTokens ts).properties = .ofList (ts.flatMap Token.propertyEntries) :=
  ofTokens_collects rfl properties_add ts

/-- The names in a part of a theme. -/
theorem map_fst_themePart (s : Sheet) (start : String) :
    (s.themePart start).map Prod.fst = s.properties.keys.filterMap (behind? start) := by
  rw [themePart, List.map_filterMap, OrderedMap.keys, List.filterMap_map]
  simp [Function.comp_def]

/-- The names in a part of a theme come up in the order of the tokens. -/
theorem map_fst_themePart_ofTokens (ts : List Token) (start : String) :
    ((ofTokens ts).themePart start).map Prod.fst =
      (ts.flatMap (fun t =>
        (t.propertyEntries.map Prod.fst).filterMap (behind? start))).eraseDups := by
  have apart : ∀ k l x, behind? start k = some x → behind? start l = some x → k = l := by
    intro k l x found found'
    rw [behind?_eq_some_iff.mp found, behind?_eq_some_iff.mp found']
  rw [map_fst_themePart, properties_ofTokens, OrderedMap.keys_ofList, filterMap_eraseDups apart,
    List.map_flatMap, List.filterMap_flatMap]

/-! ## Kinds of properties -/

/-- What the names of properties start with. -/
abbrev starts : List String := [colorStart, fontSizeStart, lineHeightStart]

/-- What the names of the properties of text styles start with. -/
abbrev textStarts : List String := [fontSizeStart, lineHeightStart]

@[simp] theorem colorStart_ne : colorStart ≠ fontSizeStart ∧ colorStart ≠ lineHeightStart := by
  decide

@[simp] theorem fontSizeStart_ne :
    fontSizeStart ≠ colorStart ∧ fontSizeStart ≠ lineHeightStart := by
  decide

@[simp] theorem lineHeightStart_ne :
    lineHeightStart ≠ colorStart ∧ lineHeightStart ≠ fontSizeStart := by
  decide

/-- The name of a property tells its kind and the slug behind it. -/
theorem start_append_inj {start other : String} (kind : start ∈ starts) (kind' : other ∈ starts)
    {slug key : String} : start ++ slug = other ++ key ↔ start = other ∧ slug = key := by
  constructor
  · intro same
    by_cases kinds : start = other
    · rw [kinds] at same
      exact ⟨kinds, (String.append_right_inj other).mp same⟩
    · -- Names of different kinds differ in their first letters.
      have heads := congrArg (fun name => name.toList.head?) same
      simp only [starts, List.mem_cons, List.not_mem_nil, or_false] at kind kind'
      rcases kind with rfl | rfl | rfl <;> rcases kind' with rfl | rfl | rfl <;>
        simp [colorStart, fontSizeStart, lineHeightStart] at heads kinds
  · rintro ⟨rfl, rfl⟩
    rfl

theorem behind?_start {start other : String} (kind : start ∈ starts)
    (kind' : other ∈ starts) (slug : String) :
    behind? start (other ++ slug) = if start = other then some slug else none := by
  split
  · rename_i same
    rw [same, behind?_append]
  · rename_i differ
    rw [Option.eq_none_iff_forall_ne_some]
    intro rest found
    exact differ ((start_append_inj kind' kind).mp (behind?_eq_some_iff.mp found)).1.symm

/-- The names of one kind are the keys of the entries that the tokens of the kind have. -/
theorem map_fst_themePart_eq_keys {α : Type} {start : String}
    {entryOf? : Token → Option (String × α)}
    (each : ∀ t : Token, (t.propertyEntries.map Prod.fst).filterMap (behind? start) =
      (entryOf? t).toList.map Prod.fst) (ts : List Token) :
    ((ofTokens ts).themePart start).map Prod.fst =
      (OrderedMap.ofList (ts.filterMap entryOf?)).keys := by
  rw [map_fst_themePart_ofTokens, OrderedMap.keys_ofList, List.filterMap_eq_flatMap_toList,
    List.map_flatMap]
  simp only [each]

/-- The colors of a theme are those of the token set. -/
theorem map_fst_themePart_colorStart (ts : List Token) :
    ((ofTokens ts).themePart colorStart).map Prod.fst = (TokenSet.ofTokens ts).colors.keys := by
  rw [TokenSet.ofTokens_eq]
  refine map_fst_themePart_eq_keys (fun t => ?_) ts
  rw [Token.propertyEntries, Token.entryOfColor?, Token.color?]
  cases t.payload <;> simp [behind?_start]

/-- The font sizes of a theme are the text styles of the token set, and so are the line
heights. -/
theorem map_fst_themePart_textStart {start : String} (kind : start ∈ textStarts)
    (ts : List Token) :
    ((ofTokens ts).themePart start).map Prod.fst = (TokenSet.ofTokens ts).typography.keys := by
  rw [TokenSet.ofTokens_eq]
  refine map_fst_themePart_eq_keys (fun t => ?_) ts
  rw [Token.propertyEntries, Token.entryOfTypography?, Token.typography?]
  rcases List.mem_pair.mp kind with rfl | rfl <;> cases t.payload <;> simp [behind?_start]

end Sheet

end DesignTokens
