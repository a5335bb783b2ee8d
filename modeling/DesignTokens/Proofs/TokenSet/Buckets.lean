import DesignTokens.Proofs.OrderedMap
import DesignTokens.TokenSet.Basic
import Mathlib.Data.List.Basic
import Mathlib.Data.List.Induction

/-!
# Entries of token sets

Each kind of token has a map of its own in a token set, and what a token does to
that map does not depend on the tokens of other kinds.
-/

namespace DesignTokens

namespace Token

/-- The entry of a color token. -/
def entryOfColor? (t : Token) : Option (String × String) :=
  t.color?.map (fun use => (t.slug, use.color.roundedCss))

/-- The entry of a typography token. -/
def entryOfTypography? (t : Token) : Option (String × TypographyEntry) :=
  t.typography?.map (fun text => (t.slug, .ofTypography text))

/-- The entry of a shadow token.  A blur has none. -/
def entryOfShadow? (t : Token) : Option (String × String) :=
  (t.shade?.bind Shade.shorthand?).map (fun shadow => (t.slug, shadow))

end Token

/-- The entries of a layout under a slug. -/
def Layout.entries (slug : String) (layout : Layout) : List (String × String) :=
  (layout.itemSpacing.map (fun x => (slug, Css.pixels x))).toList
    ++ (layout.padding.map (fun p => (slug ++ "-padding", p.css))).toList

/-- The entries of a spacing token. -/
def Token.entriesOfSpacing (t : Token) : List (String × String) :=
  (t.layout?.map (Layout.entries t.slug)).getD []

/-- Just the shadows among the effects have a stylesheet value. -/
theorem Shade.shorthand?_eq_none_iff {s : Shade} :
    s.shorthand? = none ↔ s.kind.isShadow = false := by
  rw [Shade.shorthand?]
  cases s.kind.isShadow <;> simp

namespace OrderedMap

/-- Gives each key of a list its value. -/
def insertAll {κ α : Type} [DecidableEq κ] (m : OrderedMap κ α) (entries : List (κ × α)) :
    OrderedMap κ α :=
  entries.foldl (fun m entry => m.insert entry.1 entry.2) m

end OrderedMap

namespace TokenSet

/-- Adds a shadow to those that its key has. -/
def stack (m : OrderedMap String String) (entry : String × String) : OrderedMap String String :=
  m.alter entry.1 (fun earlier =>
    match earlier with
    | some shadows => shadows ++ ", " ++ entry.2
    | none => entry.2)

theorem addLayout_eq (spacing : OrderedMap String String) (slug : String) (layout : Layout) :
    addLayout spacing slug layout = spacing.insertAll (layout.entries slug) := by
  rw [addLayout, Layout.entries]
  cases layout.itemSpacing <;> cases layout.padding <;> rfl

/-- What a token does to each of the maps. -/
theorem add_eq (s : TokenSet) (t : Token) :
    s.add t =
      { colors := s.colors.insertAll t.entryOfColor?.toList
        typography := s.typography.insertAll t.entryOfTypography?.toList
        spacing := s.spacing.insertAll t.entriesOfSpacing
        shadows := t.entryOfShadow?.toList.foldl stack s.shadows } := by
  obtain ⟨id, name, path, payload, usage⟩ := t
  cases payload with
  | color use => rfl
  | typography text => rfl
  | spacing layout =>
    rw [add]
    simp only [addLayout_eq]
    rfl
  | shadow shade =>
    simp only [add, Token.entryOfShadow?, Token.shade?, Option.bind_some]
    cases shade.shorthand? <;> rfl
  | component c => rfl

/-- The maps of a token set, each from the tokens of its kind. -/
theorem ofTokens_eq (ts : List Token) :
    ofTokens ts =
      { colors := .ofList (ts.filterMap Token.entryOfColor?)
        typography := .ofList (ts.filterMap Token.entryOfTypography?)
        spacing := .ofList (ts.flatMap Token.entriesOfSpacing)
        shadows := (ts.filterMap Token.entryOfShadow?).foldl stack .empty } := by
  -- The induction needs the statement for every set that the tokens are added to.
  have each : ∀ (s : TokenSet), ts.foldl add s =
      { colors := s.colors.insertAll (ts.flatMap (fun t => t.entryOfColor?.toList))
        typography := s.typography.insertAll (ts.flatMap (fun t => t.entryOfTypography?.toList))
        spacing := s.spacing.insertAll (ts.flatMap Token.entriesOfSpacing)
        shadows := (ts.flatMap (fun t => t.entryOfShadow?.toList)).foldl stack s.shadows } := by
    induction ts with
    | nil => exact fun s => rfl
    | cons t ts ih =>
      intro s
      rw [List.foldl_cons, ih, add_eq]
      simp only [OrderedMap.insertAll, List.flatMap_cons, List.foldl_append]
  simp only [List.filterMap_eq_flatMap_toList]
  exact each empty

/-! ## Shadows -/

/-- Shadows as one stylesheet value, if there are any. -/
def joined? : List String → Option String
  | [] => none
  | shadow :: shadows => some (", ".intercalate (shadow :: shadows))

/-- Shadows of one new key come together in one entry. -/
theorem entries_foldl_stack_of_not_mem {m : OrderedMap String String} {key : String}
    (absent : key ∉ m.keys) (shadows : List String) :
    ((shadows.map (fun shadow => (key, shadow))).foldl stack m).entries =
      m.entries ++ ((joined? shadows).map (fun shadow => (key, shadow))).toList := by
  -- Once the key is there it stays the last one, and each further shadow makes its value longer.
  have more : ∀ (shadows : List String) (value : String) (m' : OrderedMap String String),
      m'.entries = m.entries ++ [(key, value)] →
      ((shadows.map (fun shadow => (key, shadow))).foldl stack m').entries =
        m.entries ++ [(key, ", ".intercalate (value :: shadows))] := by
    intro shadows
    induction shadows with
    | nil =>
      intro value m' one
      rw [String.intercalate_singleton]
      exact one
    | cons shadow shadows ih =>
      intro value m' one
      have next : (stack m' (key, shadow)).entries =
          m.entries ++ [(key, value ++ ", " ++ shadow)] := by
        show alterEntry key _ m'.entries = _
        rw [one, alterEntry_concat _ absent]
      rw [List.map_cons, List.foldl_cons, ih _ _ next, String.intercalate_cons_append,
        String.intercalate_cons_cons]
  cases shadows with
  | nil => simp [joined?]
  | cons shadow shadows =>
    exact more shadows shadow (stack m (key, shadow)) (alterEntry_of_not_mem key _ absent)

/-- Shadows that come key by key stay in the order of their keys. -/
theorem entries_foldl_stack {groups : List (String × List String)}
    (apart : (groups.map Prod.fst).Nodup) :
    ((groups.flatMap (fun g => g.2.map (fun shadow => (g.1, shadow)))).foldl stack .empty).entries =
      groups.filterMap (fun g => (joined? g.2).map (fun shadow => (g.1, shadow))) := by
  induction groups using List.reverseRecOn with
  | nil => rfl
  | append_singleton groups g ih =>
    rw [List.map_append, List.nodup_append] at apart
    obtain ⟨earlier, _, differ⟩ := apart
    have entries := ih earlier
    -- The entries so far have the keys of other groups.
    have absent : g.1 ∉ ((groups.flatMap
        (fun g => g.2.map (fun shadow => (g.1, shadow)))).foldl stack .empty).keys := by
      rw [OrderedMap.keys, entries, List.map_filterMap]
      intro member
      obtain ⟨g', here, made⟩ := List.mem_filterMap.mp member
      have same : g'.1 = g.1 := by
        cases joined : joined? g'.2 <;> simp_all
      exact differ g'.1 (List.mem_map_of_mem here) g.1 List.mem_cons_self same
    have last : [g].filterMap (fun g => (joined? g.2).map (fun shadow => (g.1, shadow))) =
        ((joined? g.2).map (fun shadow => (g.1, shadow))).toList := by
      cases joined : joined? g.2 <;> simp [joined]
    rw [List.flatMap_append, List.foldl_append, List.flatMap_singleton,
      entries_foldl_stack_of_not_mem absent, entries, List.filterMap_append, last]

end TokenSet

end DesignTokens
