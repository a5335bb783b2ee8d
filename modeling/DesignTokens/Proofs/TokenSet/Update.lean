import DesignTokens.Proofs.Extraction.Options
import DesignTokens.Proofs.TokenSet.Buckets

/-!
# Token sets of lists put together

The token set of two lists of tokens is that of the first list, brought up to
date by that of the second.  So it does not matter where a list is cut, and what
a key has can be told from the tokens that have an entry for it: the last of them
decides about a color, a text style or a distance, and all of them about shadows.
-/

namespace DesignTokens

namespace OrderedMap

variable {κ α τ : Type} [DecidableEq κ]

theorem lookup_reverse_of_nodup {entries : List (κ × α)} (apart : (entries.map Prod.fst).Nodup)
    (key : κ) : entries.reverse.lookup key = entries.lookup key := by
  rw [← get?_ofList, get?, entries_ofList apart]

/-- Where several entries come from one origin each, the last origin with a key decides. -/
theorem get?_ofList_flatMap_eq {origin : τ → List (κ × α)}
    (apart : ∀ t, ((origin t).map Prod.fst).Nodup) (ts : List τ) (key : κ) :
    (ofList (ts.flatMap origin)).get? key =
      ts.reverse.findSome? (fun t => (origin t).lookup key) := by
  rw [get?_ofList]
  induction ts with
  | nil => rfl
  | cons t ts ih =>
    rw [List.flatMap_cons, List.reverse_append, List.lookup_append, ih, List.reverse_cons,
      List.findSome?_append, lookup_reverse_of_nodup (apart t)]
    simp

end OrderedMap

namespace TokenSet

/-! ## Updates -/

/-- Whether a token set is another one brought up to date by a third.  Values that are new take
the places of those with their keys, and only shadows are put behind those that are there. -/
structure IsUpdate (s t updated : TokenSet) : Prop where
  colors : OrderedMap.IsUpdate (fun _ x => x) s.colors t.colors updated.colors
  typography : OrderedMap.IsUpdate (fun _ x => x) s.typography t.typography updated.typography
  spacing : OrderedMap.IsUpdate (fun _ x => x) s.spacing t.spacing updated.spacing
  shadows : OrderedMap.IsUpdate (fun earlier shadows => earlier ++ ", " ++ shadows) s.shadows
    t.shadows updated.shadows

instance {α : Type} : Std.Associative (fun (_ x : α) => x) := ⟨fun _ _ _ => rfl⟩

instance : Std.Associative (fun earlier shadows : String => earlier ++ ", " ++ shadows) :=
  ⟨fun _ _ _ => by simp only [String.append_assoc]⟩

theorem foldl_stack_eq (m : OrderedMap String String) (entries : List (String × String)) :
    entries.foldl stack m =
      m.mergeAll (fun earlier shadows => earlier ++ ", " ++ shadows) entries := by
  rw [OrderedMap.mergeAll]
  congr 1
  funext m entry
  rw [stack]
  congr 1
  funext earlier
  cases earlier <;> rfl

/-- All maps of a token set come about in the same way, but for how values are joined. -/
theorem ofTokens_eq_mergeAll (ts : List Token) :
    ofTokens ts =
      { colors := .mergeAll (fun _ x => x) .empty (ts.filterMap Token.entryOfColor?)
        typography := .mergeAll (fun _ x => x) .empty (ts.filterMap Token.entryOfTypography?)
        spacing := .mergeAll (fun _ x => x) .empty (ts.flatMap Token.entriesOfSpacing)
        shadows := .mergeAll (fun earlier shadows => earlier ++ ", " ++ shadows) .empty
          (ts.filterMap Token.entryOfShadow?) } := by
  simp only [ofTokens_eq, OrderedMap.ofList_eq_mergeAll, foldl_stack_eq]

theorem isUpdate_ofTokens_append (xs ys : List Token) :
    IsUpdate (ofTokens xs) (ofTokens ys) (ofTokens (xs ++ ys)) := by
  simp only [ofTokens_eq_mergeAll, List.filterMap_append, List.flatMap_append]
  constructor <;> exact OrderedMap.isUpdate_mergeAll _ _

/-! ## Values -/

/-- What the last of several tokens that have an entry for a key says about it. -/
def lastFor {α : Type} (entriesOf : Token → List (String × α)) (key : String) (ts : List Token) :
    Option α :=
  ts.reverse.findSome? (fun t => (entriesOf t).lookup key)

theorem get?_ofList_filterMap {α : Type} (entryOf? : Token → Option (String × α))
    (ts : List Token) (key : String) :
    (OrderedMap.ofList (ts.filterMap entryOf?)).get? key =
      lastFor (fun t => (entryOf? t).toList) key ts := by
  rw [List.filterMap_eq_flatMap_toList, OrderedMap.get?_ofList_flatMap_eq, lastFor]
  intro t
  cases entryOf? t <;> simp

/-- The distance of the items of a layout and the padding around them have different keys. -/
theorem nodup_entriesOfSpacing (t : Token) : (t.entriesOfSpacing.map Prod.fst).Nodup := by
  have apart : t.slug ≠ t.slug ++ "-padding" := by
    intro same
    have lengths := congrArg String.length same
    simp at lengths
  rw [Token.entriesOfSpacing]
  cases t.layout? with
  | none => exact List.nodup_nil
  | some layout =>
    simp only [Option.map_some, Option.getD_some, Layout.entries]
    cases layout.itemSpacing <;> cases layout.padding <;> simp [apart]

theorem foldl_merge_shadows (shadows : List String) :
    shadows.foldl (fun x y => x.merge (fun earlier shadows => earlier ++ ", " ++ shadows) (some y))
      none = joined? shadows := by
  have more : ∀ (shadows : List String) (first : String),
      shadows.foldl (fun x y =>
        x.merge (fun earlier shadows => earlier ++ ", " ++ shadows) (some y)) (some first) =
        some (", ".intercalate (first :: shadows)) := by
    intro shadows
    induction shadows with
    | nil =>
      intro first
      rw [String.intercalate_singleton]
      rfl
    | cons shadow shadows ih =>
      intro first
      rw [List.foldl_cons, Option.merge, ih, String.intercalate_cons_append,
        String.intercalate_cons_cons]
  cases shadows with
  | nil => rfl
  | cons shadow shadows => exact more shadows shadow

/-- The shadows of all tokens with a slug as stylesheet values, in order. -/
def shadowsOf (slug : String) (ts : List Token) : List String :=
  (ts.filter (fun t => t.slug = slug)).filterMap (fun t => t.shade?.bind Shade.shorthand?)

theorem valuesOf_entryOfShadow? (ts : List Token) (key : String) :
    OrderedMap.valuesOf key (ts.filterMap Token.entryOfShadow?) = shadowsOf key ts := by
  rw [OrderedMap.valuesOf, List.filterMap_filterMap, shadowsOf, List.filterMap_filter]
  refine List.filterMap_congr fun t _ => ?_
  rw [Token.entryOfShadow?]
  cases t.shade?.bind Shade.shorthand? <;> simp

theorem get?_shadows_ofTokens (ts : List Token) (key : String) :
    (ofTokens ts).shadows.get? key = joined? (shadowsOf key ts) := by
  rw [ofTokens_eq_mergeAll]
  show (OrderedMap.mergeAll _ .empty _).get? key = _
  rw [OrderedMap.get?_mergeAll, valuesOf_entryOfShadow?]
  exact foldl_merge_shadows _

/-! ## Tokens without entries -/

theorem add_of_component (s : TokenSet) {t : Token} (component : t.component?.isSome) :
    s.add t = s := by
  rw [Token.component?] at component
  rw [add]
  cases payload : t.payload with
  | component c => rfl
  | _ => simp [payload] at component

theorem ofTokens_filter_idle (ts : List Token) :
    ofTokens (ts.filter (fun t => t.component?.isNone && !t.isBlur)) = ofTokens ts := by
  refine foldl_filter_of_idle (fun s t idle => ?_) ts empty
  cases component : t.component? with
  | some c => exact s.add_of_component (by rw [component]; rfl)
  | none =>
    rw [component] at idle
    exact s.add_of_isBlur (by simpa using idle)

/-! ## Lists put together -/

/-- The token set of two lists is that of the first, brought up to date by that of the second.
Every key stands where it came up first.  A color, a text style or a distance is that of the last
token with an entry for its key, and the shadows of a key are those of all tokens with this slug in
their order.  Components and blurs have no entries. -/
theorem ofTokens_updates :
    (∀ xs ys, IsUpdate (ofTokens xs) (ofTokens ys) (ofTokens (xs ++ ys))) ∧
    (∀ ts, (ofTokens ts).colors.keys =
        ((ts.filterMap Token.entryOfColor?).map Prod.fst).eraseDups ∧
      (ofTokens ts).typography.keys =
        ((ts.filterMap Token.entryOfTypography?).map Prod.fst).eraseDups ∧
      (ofTokens ts).spacing.keys = ((ts.flatMap Token.entriesOfSpacing).map Prod.fst).eraseDups ∧
      (ofTokens ts).shadows.keys =
        ((ts.filterMap Token.entryOfShadow?).map Prod.fst).eraseDups) ∧
    (∀ ts key, (ofTokens ts).colors.get? key = lastFor (fun t => t.entryOfColor?.toList) key ts ∧
      (ofTokens ts).typography.get? key = lastFor (fun t => t.entryOfTypography?.toList) key ts ∧
      (ofTokens ts).spacing.get? key = lastFor Token.entriesOfSpacing key ts ∧
      (ofTokens ts).shadows.get? key = joined? (shadowsOf key ts)) ∧
    ∀ ts, ofTokens (ts.filter (fun t => t.component?.isNone && !t.isBlur)) = ofTokens ts := by
  refine ⟨isUpdate_ofTokens_append, fun ts => ?_, fun ts key => ?_, ofTokens_filter_idle⟩
  · rw [ofTokens_eq_mergeAll]
    exact ⟨OrderedMap.keys_mergeAll _ _, OrderedMap.keys_mergeAll _ _,
      OrderedMap.keys_mergeAll _ _, OrderedMap.keys_mergeAll _ _⟩
  · refine ⟨?_, ?_, ?_, get?_shadows_ofTokens ts key⟩
    · rw [ofTokens_eq, get?_ofList_filterMap]
    · rw [ofTokens_eq, get?_ofList_filterMap]
    · rw [ofTokens_eq, OrderedMap.get?_ofList_flatMap_eq nodup_entriesOfSpacing, lastFor]

end TokenSet

end DesignTokens
