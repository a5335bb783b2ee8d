import DesignTokens.Proofs.Extraction.Outline
import DesignTokens.Proofs.Extraction.Identity
import DesignTokens.Proofs.Token.Slug
import DesignTokens.Proofs.TokenSet.Buckets

/-!
# Token sets of documents

Each fact about a node goes to one entry of the token set of its document, and
the entries come in document order.  Names that differ in their slugs keep the
entries of different nodes apart, except where one name ends in what is put
behind another.
-/

namespace DesignTokens

open Naming

/-! ## Nodes in document order -/

namespace Node

mutual

/-- The nodes of a tree, parents before children. -/
def nodes : Node → List Node
  | ⟨own, children⟩ => ⟨own, children⟩ :: nodesOf children

/-- The nodes of several trees. -/
def nodesOf : List Node → List Node
  | [] => []
  | n :: ns => nodes n ++ nodesOf ns

end

mutual

theorem map_snd_placed (p : Place) : (n : Node) → (n.placed p).map Prod.snd = n.nodes
  | ⟨own, children⟩ => by
    rw [placed, nodes, List.map_cons, map_snd_placedAll p [] children]

theorem map_snd_placedAll (p : Place) (seen : List String) :
    (ns : List Node) → (placedAll p seen ns).map Prod.snd = nodesOf ns
  | [] => rfl
  | n :: ns => by
    rw [placedAll, nodesOf, List.map_append, map_snd_placed, map_snd_placedAll p _ ns]

end

/-! ## Payloads of a node -/

/-- The colors of a list of paints with their places in it. -/
def usesOf (role : PaintRole) (paints : List Paint) : List ColorUse :=
  paints.zipIdx.filterMap (fun (paint, index) =>
    paint.solidColor?.map (fun color => ⟨color, role, UInt64.ofNat index⟩))

/-- The colors of a node: those of its fills, then those of its strokes. -/
def colorUses (n : Node) : List ColorUse := usesOf .fill n.own.fills ++ usesOf .stroke n.own.strokes

/-- The payloads of the tokens of a node. -/
def payloads (options : ExtractionOptions) (n : Node) : List Payload :=
  n.colorUses.map .color
    ++ n.own.text?.toList.map .typography
    ++ (n.own.effects.filter (fun e => options.records e.kind)).map (fun e => .shadow (.ofEffect e))
    ++ n.own.layout?.toList.map .spacing
    ++ (if n.own.kind.isComponentLike then [.component n.component] else [])

theorem map_snd_colorContents (role : PaintRole) (paints : List Paint) :
    (colorContents role paints).map Prod.snd = (usesOf role paints).map .color := by
  simp only [colorContents, usesOf, List.map_filterMap, Option.map_map]
  rfl

theorem map_snd_effectContents (options : ExtractionOptions) (effects : List Effect) :
    (effectContents options effects).map Prod.snd =
      (effects.filter (fun e => options.records e.kind)).map (fun e => .shadow (.ofEffect e)) := by
  let recorded := Option.guard (fun e : Effect => options.records e.kind)
  calc
    _ = effects.zipIdx.filterMap
        (fun x => (recorded x.1).map (fun e => .shadow (.ofEffect e))) := by
      rw [effectContents, List.map_filterMap]
      congr 1
      funext x
      obtain ⟨e, index⟩ := x
      by_cases kept : options.records e.kind <;> simp [recorded, kept]
    _ = ((effects.zipIdx.map Prod.fst).filterMap recorded).map
        (fun e => .shadow (.ofEffect e)) := by
      rw [List.filterMap_map, List.map_filterMap]
      rfl
    _ = _ := by rw [List.zipIdx_map_fst, List.filterMap_eq_filter]

theorem map_snd_contents (options : ExtractionOptions) (n : Node) :
    (n.contents options).map Prod.snd = n.payloads options := by
  simp only [contents, payloads, colorUses, List.map_append, map_snd_colorContents,
    map_snd_effectContents]
  congr 1
  · congr 1
    · congr 2
      cases n.own.text? <;> rfl
    · cases n.own.layout? <;> rfl
  · split <;> rfl

end Node

/-- A token of which only the name and the payload are known. -/
def Token.bare (name : String) (payload : Payload) : Token := ⟨"", name, [], payload, none⟩

/-- What depends on names and payloads alone comes up node by node. -/
theorem flatMap_extract {β : Type} {f : Token → List β}
    (blind : ∀ t, f t = f (.bare t.name t.payload)) (options : ExtractionOptions) (n : Node) :
    (extract options n).flatMap f =
      n.nodes.flatMap (fun m =>
        (m.payloads options).flatMap (fun payload => f (.bare m.name payload))) := by
  have block (v : Place × Node) : (v.2.block options v.1).flatMap f =
      (v.2.payloads options).flatMap (fun payload => f (.bare v.2.name payload)) := by
    rw [Node.block_eq_map, ← Node.map_snd_contents, List.flatMap_map, List.flatMap_map]
    exact List.flatMap_congr fun c _ => blind _
  -- The outline of a document knows its tokens up to their usage, which `f` does not see.
  have unused (t : Token) : f t.withoutUsage = f t := (blind t.withoutUsage).trans (blind t).symm
  rw [List.flatMap_def, map_extract unused, ← List.flatMap_def, Node.outline, List.flatMap_assoc,
    ← Node.map_snd_placed (Place.root n.name), List.flatMap_map]
  exact List.flatMap_congr fun v _ => block v

namespace Node

/-! ## Entries of a node -/

/-- The key of a color of a node. -/
def colorKey (n : Node) (use : ColorUse) : String := kebab n.name ++ Token.colorQualifier use

/-- One entry for each solid fill or stroke with a color. -/
def colorEntries (n : Node) : List (String × String) :=
  n.colorUses.map (fun use => (n.colorKey use, use.color.roundedCss))

/-- One entry for a text node. -/
def entryOfTypography? (n : Node) : Option (String × TypographyEntry) :=
  n.own.text?.map (fun text => (kebab n.name, .ofTypography text))

/-- One entry for the item spacing and one for the padding of a node with a
layout mode. -/
def entriesOfSpacing (n : Node) : List (String × String) :=
  (n.own.layout?.map (Layout.entries (kebab n.name))).getD []

/-- The shadows of a node as stylesheet values. -/
def shadows (n : Node) : List String :=
  n.own.effects.filterMap (fun e => (Shade.ofEffect e).shorthand?)

/-- One entry for a node with at least one shadow. -/
def entryOfShadow? (n : Node) : Option (String × String) :=
  if n.own.effects.any (fun e => e.kind.isShadow) then
    some (kebab n.name, ", ".intercalate n.shadows)
  else none

/-- Whether a node with a layout mode declares the distance of its items. -/
def declaresItemSpacing (n : Node) : Bool := (n.own.layout?.bind Layout.itemSpacing).isSome

/-- Whether a node with a layout mode declares a padding. -/
def declaresPadding (n : Node) : Bool := (n.own.layout?.bind Layout.padding).isSome

section

variable (options : ExtractionOptions) (n : Node)

/-- Components have no entries, so that what is left are the four other kinds. -/
theorem flatMap_payloads {β : Type} {pick : Payload → List β}
    (component : ∀ c, pick (.component c) = []) :
    (n.payloads options).flatMap pick =
      n.colorUses.flatMap (fun use => pick (.color use))
        ++ n.own.text?.toList.flatMap (fun text => pick (.typography text))
        ++ (n.own.effects.filter (fun e => options.records e.kind)).flatMap
          (fun e => pick (.shadow (.ofEffect e)))
        ++ n.own.layout?.toList.flatMap (fun layout => pick (.spacing layout)) := by
  have last : (if n.own.kind.isComponentLike then [Payload.component n.component] else []).flatMap
      pick = [] := by
    split
    · simp [component]
    · rfl
  simp only [payloads, List.flatMap_append, List.flatMap_map, last, List.append_nil]

theorem flatMap_nothing {α β : Type} (xs : List α) : xs.flatMap (fun _ => ([] : List β)) = [] :=
  List.flatMap_eq_nil_iff.mpr fun _ _ => rfl

theorem flatMap_entryOfColor :
    (n.payloads options).flatMap (fun payload => (Token.bare n.name payload).entryOfColor?.toList) =
      n.colorEntries := by
  rw [flatMap_payloads options n (fun _ => rfl), colorEntries, List.map_eq_flatMap]
  simp [Token.bare, Token.entryOfColor?, Token.color?, Token.slug, colorKey, flatMap_nothing]

theorem flatMap_entryOfTypography :
    (n.payloads options).flatMap
      (fun payload => (Token.bare n.name payload).entryOfTypography?.toList) =
        n.entryOfTypography?.toList := by
  rw [flatMap_payloads options n (fun _ => rfl), entryOfTypography?]
  cases n.own.text? <;>
    simp [Token.bare, Token.entryOfTypography?, Token.typography?, Token.slug, flatMap_nothing]

theorem flatMap_entriesOfSpacing :
    (n.payloads options).flatMap (fun payload => (Token.bare n.name payload).entriesOfSpacing) =
      n.entriesOfSpacing := by
  rw [flatMap_payloads options n (fun _ => rfl), entriesOfSpacing]
  cases n.own.layout? <;>
    simp [Token.bare, Token.entriesOfSpacing, Token.layout?, Token.slug, flatMap_nothing]

theorem flatMap_entryOfShadow :
    (n.payloads options).flatMap
      (fun payload => (Token.bare n.name payload).entryOfShadow?.toList) =
      n.shadows.map (fun shadow => (kebab n.name, shadow)) := by
  -- An effect that is not recorded is no shadow.
  have recorded (e : Effect) : (if options.records e.kind then
      (Shade.ofEffect e).shorthand?.map (fun shadow => (kebab n.name, shadow)) else none) =
        (Shade.ofEffect e).shorthand?.map (fun shadow => (kebab n.name, shadow)) := by
    rw [ExtractionOptions.records]
    cases shadow : e.kind.isShadow with
    | true => simp
    | false =>
      have other : (Shade.ofEffect e).kind.isShadow = false := shadow
      simp [Shade.shorthand?_eq_none_iff.mpr other]
  rw [flatMap_payloads options n (fun _ => rfl), shadows, List.map_filterMap]
  simp only [Token.bare, Token.entryOfShadow?, Token.shade?, Token.slug, flatMap_nothing,
    Option.bind_some, Option.bind_none, Option.map_none, Option.toList_none, List.nil_append,
    List.append_nil]
  rw [← List.filterMap_eq_flatMap_toList, List.filterMap_filter]
  simp only [recorded]

end

end Node

/-! ## Entries of a document -/

/-- The maps of the token set of a document, each from the entries of its nodes. -/
theorem ofTokens_extract (options : ExtractionOptions) (n : Node) :
    TokenSet.ofTokens (extract options n) =
      { colors := .ofList (n.nodes.flatMap Node.colorEntries)
        typography := .ofList (n.nodes.filterMap Node.entryOfTypography?)
        spacing := .ofList (n.nodes.flatMap Node.entriesOfSpacing)
        shadows := (n.nodes.flatMap (fun m =>
          m.shadows.map (fun shadow => (kebab m.name, shadow)))).foldl TokenSet.stack .empty } := by
  rw [TokenSet.ofTokens_eq]
  simp only [List.filterMap_eq_flatMap_toList]
  congr 2
  · rw [flatMap_extract (fun _ => rfl)]
    exact List.flatMap_congr fun m _ => m.flatMap_entryOfColor options
  · rw [flatMap_extract (fun _ => rfl)]
    exact List.flatMap_congr fun m _ => m.flatMap_entryOfTypography options
  · rw [flatMap_extract (fun _ => rfl)]
    exact List.flatMap_congr fun m _ => m.flatMap_entriesOfSpacing options
  · rw [flatMap_extract (fun _ => rfl)]
    exact List.flatMap_congr fun m _ => m.flatMap_entryOfShadow options

/-! ## Keys of a document -/

namespace Node

theorem entryOfShadow?_eq (n : Node) :
    (TokenSet.joined? n.shadows).map (fun shadow => (kebab n.name, shadow)) = n.entryOfShadow? := by
  have unshaded : n.shadows = [] ↔ ¬ n.own.effects.any (fun e => e.kind.isShadow) := by
    simp [shadows, List.filterMap_eq_nil_iff, Shade.shorthand?_eq_none_iff, Shade.ofEffect]
  rw [entryOfShadow?]
  split
  · rename_i shadow
    cases found : n.shadows with
    | nil => exact absurd shadow (unshaded.mp found)
    | cons first others => rfl
  · rename_i nothing
    rw [unshaded.mpr nothing]
    rfl

/-- No two colors of a node have one key. -/
theorem nodup_colorKeys {n : Node} (fills : n.own.fills.length ≤ UInt64.size)
    (strokes : n.own.strokes.length ≤ UInt64.size) : (n.colorUses.map n.colorKey).Nodup := by
  have role : ∀ {role : PaintRole} {paints : List Paint}, ∀ use ∈ usesOf role paints,
      use.role = role := by
    intro role paints use member
    obtain ⟨_, _, made⟩ := List.mem_filterMap.mp member
    obtain ⟨color, _, rfl⟩ := Option.map_eq_some_iff.mp made
    rfl
  have places : ∀ {role : PaintRole} {paints : List Paint}, paints.length ≤ UInt64.size →
      ((usesOf role paints).map (fun use => (use.role, use.index))).Nodup := by
    intro role paints short
    have numbered : (paints.zipIdx.map (fun x => (role, UInt64.ofNat x.2))).Nodup := by
      refine nodup_map_zipIdx paints (fun index => (role, UInt64.ofNat index)) ?_
      intro i low j low' same
      have numbers := congrArg UInt64.toNat (Prod.mk.inj same).2
      rwa [UInt64.toNat_ofNat_of_lt' (by omega), UInt64.toNat_ofNat_of_lt' (by omega)] at numbers
    refine nodup_map_filterMap ?_ numbered
    rintro ⟨paint, index⟩ use made
    obtain ⟨color, _, rfl⟩ := Option.map_eq_some_iff.mp made
    rfl
  -- Places are told apart by their numbers within a list of paints, and by the role otherwise.
  have distinct : (n.colorUses.map (fun use => (use.role, use.index))).Nodup := by
    rw [colorUses, List.map_append, List.nodup_append]
    refine ⟨places fills, places strokes, ?_⟩
    intro x fill y stroke same
    obtain ⟨u, here, rfl⟩ := List.mem_map.mp fill
    obtain ⟨v, there, rfl⟩ := List.mem_map.mp stroke
    rw [role u here, role v there] at same
    cases same
  -- Behind one and the same name, equal keys have equal qualifiers, and these tell the place.
  refine List.pairwise_map.mpr ((List.pairwise_map.mp distinct).imp fun differ same => differ ?_)
  rcases Token.colorQualifier_split same with ⟨_, role, index⟩ | ⟨use, nonempty, longer⟩
  · rw [role, index]
  · have longer : kebab n.name = kebab n.name ++ Token.colorQualifier use := longer.elim id id
    exact absurd (String.append_eq_left_iff.mp longer.symm) nonempty

theorem map_fst_colorEntries (n : Node) :
    n.colorEntries.map Prod.fst = n.colorUses.map n.colorKey := by
  rw [colorEntries, List.map_map]
  rfl

/-- The keys of the colors of a tree differ just if those of different nodes do. -/
theorem nodup_flatMap_colorKeys_iff {nodes : List Node}
    (apart : (nodes.map (fun m => kebab m.name)).Nodup)
    (short : ∀ m ∈ nodes,
      m.own.fills.length ≤ UInt64.size ∧ m.own.strokes.length ≤ UInt64.size) :
    ((nodes.flatMap colorEntries).map Prod.fst).Nodup ↔
      ∀ m ∈ nodes, ∀ k ∈ nodes, ∀ u ∈ m.colorUses, ∀ v ∈ k.colorUses,
        m.colorKey u = k.colorKey v → kebab m.name = kebab k.name := by
  simp only [List.map_flatMap, map_fst_colorEntries, List.nodup_flatMap]
  constructor
  · -- Two nodes with a key in common would be two different nodes of the list.
    rintro ⟨_, disjoint⟩ m here k there u inside v outside same
    by_contra differ
    have symmetric : Std.Symm (Function.onFun List.Disjoint
        (fun m : Node => m.colorUses.map m.colorKey)) :=
      ⟨fun _ _ apart _ left right => apart right left⟩
    have other : m ≠ k := by
      rintro rfl
      exact differ rfl
    have separate : List.Disjoint (m.colorUses.map m.colorKey) (k.colorUses.map k.colorKey) :=
      List.Pairwise.forall disjoint here there other
    have outside : m.colorKey u ∈ k.colorUses.map k.colorKey :=
      same ▸ List.mem_map_of_mem outside
    exact separate (List.mem_map_of_mem inside) outside
  · intro names
    refine ⟨fun m member => nodup_colorKeys (short m member).1 (short m member).2, ?_⟩
    refine (List.pairwise_map.mp apart).imp_of_mem ?_
    intro m k here there differ key inside outside
    obtain ⟨u, use, rfl⟩ := List.mem_map.mp inside
    obtain ⟨v, use', same⟩ := List.mem_map.mp outside
    exact differ (names m here k there u use v use' same.symm)

theorem nodup_flatMap_spacingKeys {nodes : List Node}
    (apart : (nodes.map (fun m => kebab m.name)).Nodup)
    (plain : ∀ m ∈ nodes, ∀ k ∈ nodes, m.declaresPadding → k.declaresItemSpacing →
      kebab k.name ≠ kebab m.name ++ "-padding") :
    ((nodes.flatMap entriesOfSpacing).map Prod.fst).Nodup := by
  have keys (m : Node) : m.entriesOfSpacing.map Prod.fst =
      (if m.declaresItemSpacing then [kebab m.name] else [])
        ++ (if m.declaresPadding then [kebab m.name ++ "-padding"] else []) := by
    rw [entriesOfSpacing, declaresItemSpacing, declaresPadding]
    cases m.own.layout? with
    | none => rfl
    | some layout =>
      rw [Option.bind_some, Option.bind_some, Option.map_some, Option.getD_some, Layout.entries]
      cases layout.itemSpacing <;> cases layout.padding <;> rfl
  -- Two nodes can only meet where the one has the key of its padding and the other its own name.
  simp only [List.map_flatMap, keys, List.nodup_flatMap]
  constructor
  · intro m _
    have longer : kebab m.name ≠ kebab m.name ++ "-padding" := fun same =>
      absurd (String.append_eq_left_iff.mp same.symm) (by decide)
    split <;> split <;> simp [longer]
  · refine (List.pairwise_map.mp apart).imp_of_mem ?_
    intro m k here there differ key inside outside
    have padded : ∀ {name : String} {items padding : Bool},
        key ∈ (if items then [name] else []) ++ (if padding then [name ++ "-padding"] else []) →
        (items ∧ key = name) ∨ (padding ∧ key = name ++ "-padding") := by
      intro name items padding
      cases items <;> cases padding <;> simp
    rcases padded inside with ⟨items, rfl⟩ | ⟨padding, rfl⟩ <;>
      rcases padded outside with ⟨items', same⟩ | ⟨padding', same⟩
    · exact differ same
    · exact plain k there m here padding' items same
    · exact plain m here k there padding items' same.symm
    · exact differ ((String.append_left_inj _).mp same)

end Node

/-! ## Nothing is lost -/

/-- Names that differ in their slugs keep all text styles and all shadows of a
document apart.  They keep its colors apart just if no two colors of different
nodes have one key, for which one node must be named like another one with what
is put behind the names of colors, and its spacing if no node is named like the
padding of another one. -/
theorem entries_ofTokens_extract (options : ExtractionOptions) (n : Node)
    (apart : (n.nodes.map (fun m => kebab m.name)).Nodup)
    (short : ∀ m ∈ n.nodes,
      m.own.fills.length ≤ UInt64.size ∧ m.own.strokes.length ≤ UInt64.size) :
    let s := TokenSet.ofTokens (extract options n)
    s.typography.entries = n.nodes.filterMap Node.entryOfTypography? ∧
    s.shadows.entries = n.nodes.filterMap Node.entryOfShadow? ∧
    (s.colors.entries = n.nodes.flatMap Node.colorEntries ↔
      ∀ m ∈ n.nodes, ∀ k ∈ n.nodes, ∀ u ∈ m.colorUses, ∀ v ∈ k.colorUses,
        m.colorKey u = k.colorKey v → kebab m.name = kebab k.name) ∧
    ((∀ m ∈ n.nodes, ∀ k ∈ n.nodes, m.colorUses ≠ [] → k.colorUses ≠ [] → ∀ use,
        Token.colorQualifier use ≠ "" → kebab k.name ≠ kebab m.name ++ Token.colorQualifier use) →
      s.colors.entries = n.nodes.flatMap Node.colorEntries) ∧
    ((∀ m ∈ n.nodes, ∀ k ∈ n.nodes, m.declaresPadding → k.declaresItemSpacing →
        kebab k.name ≠ kebab m.name ++ "-padding") →
      s.spacing.entries = n.nodes.flatMap Node.entriesOfSpacing) := by
  have colors : (OrderedMap.ofList (n.nodes.flatMap Node.colorEntries)).entries
        = n.nodes.flatMap Node.colorEntries ↔
      ∀ m ∈ n.nodes, ∀ k ∈ n.nodes, ∀ u ∈ m.colorUses, ∀ v ∈ k.colorUses,
        m.colorKey u = k.colorKey v → kebab m.name = kebab k.name := by
    rw [← Node.nodup_flatMap_colorKeys_iff apart short]
    exact ⟨fun same => same ▸ (OrderedMap.ofList _).nodup, OrderedMap.entries_ofList⟩
  rw [ofTokens_extract]
  refine ⟨?_, ?_, colors, ?_, ?_⟩
  · refine OrderedMap.entries_ofList (Node.nodup_map_filterMap (fun m entry made => ?_) apart)
    obtain ⟨text, _, rfl⟩ := Option.map_eq_some_iff.mp made
    rfl
  · have groups : ((n.nodes.map (fun m => (kebab m.name, m.shadows))).map Prod.fst).Nodup := by
      rw [List.map_map]
      exact apart
    have entries := TokenSet.entries_foldl_stack groups
    rw [List.flatMap_map, List.filterMap_map] at entries
    exact entries.trans (List.filterMap_congr fun m _ => m.entryOfShadow?_eq)
  · intro plain
    refine colors.mpr fun m here k there u inside v outside same => ?_
    have colored : m.colorUses ≠ [] := List.ne_nil_of_mem inside
    have colored' : k.colorUses ≠ [] := List.ne_nil_of_mem outside
    rcases Token.colorQualifier_split same with ⟨one, _, _⟩ | ⟨use, nonempty, longer | longer⟩
    · exact one
    · exact absurd longer (plain m here k there colored colored' use nonempty)
    · exact absurd longer (plain k there m here colored' colored use nonempty)
  · exact fun plain => OrderedMap.entries_ofList (Node.nodup_flatMap_spacingKeys apart plain)

/-- A card with a fill, a stroke, two shadows and a layout, and a title in it. -/
def cardPage : Node :=
  let card : Attributes :=
    { Attributes.bare "Card" .frame with
      fills := [.solid ⟨1, 1, 1, 1⟩]
      strokes := [.solid ⟨0, 0, 0, 1⟩]
      effects :=
        [.shadow .dropShadow .zero 4 ⟨0, 0, 0, 1⟩, .shadow .innerShadow .zero 2 ⟨0, 0, 0, 1⟩]
      layoutMode := some .vertical
      itemSpacing := some 8
      paddingTop := some 16 }
  ⟨.bare "Page" .canvas, [⟨card, [⟨.bare "Title" .text, []⟩]⟩]⟩

theorem keys_ofTokens_extract_cardPage :
    let s := TokenSet.ofTokens (extract .shallow cardPage)
    s.colors.keys = ["card", "card-stroke"] ∧ s.typography.keys = ["title"] ∧
      s.spacing.keys = ["card", "card-padding"] ∧ s.shadows.keys = ["card"] := by
  obtain ⟨typography, shadows, colors, _, spacing⟩ :=
    entries_ofTokens_extract .shallow cardPage (by decide +kernel) (by decide +kernel)
  refine ⟨?_, ?_, ?_, ?_⟩
  · rw [OrderedMap.keys, colors.mpr (by decide +kernel)]
    decide +kernel
  · rw [OrderedMap.keys, typography]
    decide +kernel
  · rw [OrderedMap.keys, spacing (by decide +kernel)]
    decide +kernel
  · rw [OrderedMap.keys, shadows]
    decide +kernel

/-- A card with a stroke beside a node that is named like the stroke. -/
def cardStrokePage : Node :=
  ⟨.bare "Page" .canvas,
    [⟨{ Attributes.bare "Card" .rectangle with strokes := [.solid ⟨0, 0, 1, 1⟩] }, []⟩,
      ⟨{ Attributes.bare "Card Stroke" .rectangle with fills := [.solid ⟨1, 0, 0, 1⟩] }, []⟩]⟩

/-- Two colors of nodes whose names differ in their slugs share one key, and one
of them is lost. -/
theorem size_colors_cardStrokePage :
    (cardStrokePage.nodes.map (fun m => kebab m.name)).Nodup ∧
    (cardStrokePage.nodes.flatMap Node.colorUses).length = 2 ∧
    (TokenSet.ofTokens (extract .shallow cardStrokePage)).colors.size = 1 := by
  refine ⟨by decide +kernel, by decide +kernel, ?_⟩
  rw [ofTokens_extract]
  decide +kernel

end DesignTokens
