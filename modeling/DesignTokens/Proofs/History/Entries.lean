import DesignTokens.Proofs.History.Differences
import DesignTokens.Proofs.Json.Spelling

/-!
# Differences of token sets

A token set is written as an object of four objects, which are there even if they
are empty.  So the differences of two token sets are those of single entries, and
of single fields of a text style that is on both sides.  There are none if and
only if both sets have equal entries, in whatever order.
-/

namespace DesignTokens

/-! ## Equal entries -/

/-- Whether two maps have equal values under the same keys, in whatever order. -/
def OrderedMap.SameEntries {α : Type} [BEq α] (m n : OrderedMap String α) : Prop :=
  ∀ key, Option.Rel (fun x y => (x == y) = true) (m.get? key) (n.get? key)

namespace TokenSet

/-- Whether two token sets have equal entries, in whatever order. -/
structure SameEntries (s t : TokenSet) : Prop where
  colors : s.colors.SameEntries t.colors
  typography : s.typography.SameEntries t.typography
  spacing : s.spacing.SameEntries t.spacing
  shadows : s.shadows.SameEntries t.shadows

/-- The names of the maps of a token set, each with the keys of the map. -/
def buckets (s : TokenSet) : List (String × List String) :=
  [("colors", s.colors.keys), ("typography", s.typography.keys), ("spacing", s.spacing.keys),
    ("shadows", s.shadows.keys)]

/-- Whether a token set has an entry in the map of a name. -/
def Has (s : TokenSet) (bucket key : String) : Prop :=
  ∃ keys, (bucket, keys) ∈ s.buckets ∧ key ∈ keys

end TokenSet

namespace Change

open Json

/-! ## Maps as objects -/

section Objects

variable {α β : Type} {write : α → Json} {write' : β → Json} {m : OrderedMap String α}
  {n : OrderedMap String β} {c : Change}

/-- The object of a map. -/
def objectOf (write : α → Json) (m : OrderedMap String α) : Json :=
  .obj (m.entries.map fun entry => (entry.1, write entry.2))

/-- What stands under a key of the object of a map. -/
def valueAt (write : α → Json) (m : OrderedMap String α) (key : String) : Option Json :=
  (m.get? key).map fun x => (write x).canonical

theorem exists_canonical_objectOf (write : α → Json) (m : OrderedMap String α) :
    ∃ fields, (objectOf write m).canonical = .obj fields ∧ Sorted fields ∧
      ∀ key, get? fields key = valueAt write m key := by
  refine ⟨_, rfl, sorted_sortFields _, fun key => ?_⟩
  rw [get?_canonical (by rw [List.map_map]; exact m.nodup), get?_map]
  exact Option.map_map ..

theorem mem_across_objectOf :
    c ∈ across (some (objectOf write m).canonical) (some (objectOf write' n).canonical) ↔
      ∃ key, ∃ d ∈ across (valueAt write m key) (valueAt write' n key), c = d.under [key] := by
  obtain ⟨fs, left, sorted, here⟩ := exists_canonical_objectOf write m
  obtain ⟨gs, right, sorted', there⟩ := exists_canonical_objectOf write' n
  rw [left, right, mem_across_objects sorted sorted']
  simp only [here, there]

theorem same_objectOf_iff :
    (objectOf write m).canonical.same (objectOf write' n).canonical = true ↔
      ∀ key, Agree (valueAt write m key) (valueAt write' n key) := by
  obtain ⟨fs, left, sorted, here⟩ := exists_canonical_objectOf write m
  obtain ⟨gs, right, sorted', there⟩ := exists_canonical_objectOf write' n
  simp only [left, right, ← here, ← there]
  exact ⟨rel_get?_of_sameFields, sameFields_of_get? sorted sorted'⟩

/-- Where there are differences at a key, one of the maps has it. -/
theorem mem_keys_of_mem_across {key : String}
    (member : c ∈ across (valueAt write m key) (valueAt write' n key)) :
    key ∈ m.keys ∨ key ∈ n.keys := by
  cases left : m.get? key with
  | some x => exact .inl (List.mem_map_of_mem (OrderedMap.get?_eq_some_iff.mp left))
  | none =>
    cases right : n.get? key with
    | some y => exact .inr (List.mem_map_of_mem (OrderedMap.get?_eq_some_iff.mp right))
    | none =>
      rw [valueAt, valueAt, left, right] at member
      cases member

/-- Maps are equal as objects if they have equal entries. -/
theorem same_objectOf_iff_sameEntries [BEq α] {n : OrderedMap String α}
    (equal : ∀ x ∈ m.values, ∀ y ∈ n.values,
      (write x).canonical.same (write y).canonical = (x == y)) :
    (objectOf write m).canonical.same (objectOf write n).canonical = true ↔ m.SameEntries n := by
  rw [same_objectOf_iff]
  refine forall_congr' fun key => ?_
  rw [valueAt, valueAt]
  cases left : m.get? key with
  | none => cases n.get? key <;> simp [Agree]
  | some x =>
    cases right : n.get? key with
    | none => simp [Agree]
    | some y =>
      have first : x ∈ m.values := List.mem_map_of_mem (OrderedMap.get?_eq_some_iff.mp left)
      have second : y ∈ n.values := List.mem_map_of_mem (OrderedMap.get?_eq_some_iff.mp right)
      simp [Agree, equal x first y second]

end Objects

/-! ## Records -/

section Records

variable {contents : OrderedMap String (Json × Json)} {c : Change}

/-- The differences of two records with the same fields are those of the contents of a field. -/
theorem mem_across_record :
    c ∈ across (some (objectOf Prod.fst contents).canonical)
        (some (objectOf Prod.snd contents).canonical) ↔
      ∃ content ∈ contents.entries,
        ∃ d ∈ between content.2.1.canonical content.2.2.canonical, c = d.under [content.1] := by
  rw [mem_across_objectOf]
  constructor
  · rintro ⟨key, d, member, rfl⟩
    rw [valueAt, valueAt] at member
    cases found : contents.get? key with
    | none =>
      rw [found] at member
      cases member
    | some both =>
      rw [found] at member
      exact ⟨(key, both), OrderedMap.get?_eq_some_iff.mp found, d, member, rfl⟩
  · rintro ⟨content, here, d, member, rfl⟩
    refine ⟨content.1, d, ?_, rfl⟩
    rw [valueAt, valueAt, OrderedMap.get?_of_mem here]
    exact member

theorem same_record_iff :
    (objectOf Prod.fst contents).canonical.same (objectOf Prod.snd contents).canonical = true ↔
      ∀ content ∈ contents.entries, content.2.1.canonical.same content.2.2.canonical = true := by
  rw [same_objectOf_iff]
  constructor
  · intro agree content here
    have agree := agree content.1
    rw [valueAt, valueAt, OrderedMap.get?_of_mem here] at agree
    cases agree with
    | some equal => exact equal
  · intro equal key
    rw [valueAt, valueAt]
    cases found : contents.get? key with
    | none => exact .none
    | some both => exact .some (equal (key, both) (OrderedMap.get?_eq_some_iff.mp found))

end Records

/-! ## Text styles -/

section TextStyles

variable {e f : TypographyEntry} {c : Change}

/-- The fields of two text styles. -/
def entryContents (e f : TypographyEntry) : OrderedMap String (Json × Json) where
  entries :=
    [("fontFamily", toJson e.fontFamily, toJson f.fontFamily),
      ("fontSize", toJson e.fontSize, toJson f.fontSize),
      ("fontWeight", toJson e.fontWeight, toJson f.fontWeight),
      ("lineHeight", toJson e.lineHeight, toJson f.lineHeight),
      ("letterSpacing", toJson e.letterSpacing, toJson f.letterSpacing)]
  nodup := by
    show ["fontFamily", "fontSize", "fontWeight", "lineHeight", "letterSpacing"].Nodup
    decide

theorem same_string (s t : String) : (toJson s).canonical.same (toJson t).canonical = (s == t) :=
  rfl

theorem same_uint16 (m n : UInt16) : (toJson m).canonical.same (toJson n).canonical = (m == n) := by
  show ((m.toNat : Int) == (n.toNat : Int)) = (m == n)
  rw [Bool.eq_iff_iff, beq_iff_eq, beq_iff_eq, Int.natCast_inj, UInt16.toNat_inj]

theorem same_float {x y : Float} (finite : Decimal.isFinite x = true)
    (finite' : Decimal.isFinite y = true) :
    (toJson x).canonical.same (toJson y).canonical = (x == y) := by
  have left : toJson x = .num (.real x) := if_pos finite
  have right : toJson y = .num (.real y) := if_pos finite'
  rw [left, right]
  rfl

theorem same_entry (finite : Decimal.isFinite e.lineHeight = true)
    (finite' : Decimal.isFinite f.lineHeight = true) :
    (toJson e).canonical.same (toJson f).canonical = (e == f) := by
  have fields : (e == f) = (e.fontFamily == f.fontFamily && (e.fontSize == f.fontSize &&
      (e.fontWeight == f.fontWeight && (e.lineHeight == f.lineHeight &&
        e.letterSpacing == f.letterSpacing)))) := rfl
  have same := @same_record_iff (entryContents e f)
  rw [Bool.eq_iff_iff]
  refine same.trans ?_
  simp [entryContents, fields, same_string, same_uint16, same_float finite finite']

theorem mem_between_of_leaf {old new : Json} (leaf : ∀ fields, old ≠ .obj fields)
    (member : c ∈ between old new) : c.kind = .modified ∧ c.path = [] := by
  have others : ¬ BothObjects (some old) (some new) := by
    rintro ⟨fields, _, same, _⟩
    exact leaf fields (Option.some.inj same)
  obtain ⟨path, _, _, kind, _⟩ := (mem_across_of_not_objects others).mp member
  exact ⟨kind, path⟩

theorem leaf_float (x : Float) : ∀ fields, (toJson x).canonical ≠ .obj fields := by
  show ∀ fields, (if Decimal.isFinite x then Json.num (.real x) else .null).canonical ≠ .obj fields
  split <;> nofun

/-- Text styles differ in the contents of their fields, which they never lack. -/
theorem mem_across_entry
    (member : c ∈ across (some (toJson e).canonical) (some (toJson f).canonical)) :
    c.kind = .modified ∧
      ∃ field ∈ TypographyEntry.knownFields.map Field.name, c.path = [field] := by
  obtain ⟨content, here, d, inside, rfl⟩ := (@mem_across_record (entryContents e f) c).mp member
  have leaf : ∀ fields, content.2.1.canonical ≠ .obj fields := by
    simp only [entryContents, List.mem_cons, List.not_mem_nil, or_false] at here
    rcases here with rfl | rfl | rfl | rfl | rfl
    -- All contents are texts and numbers, though a line height might be null.
    · nofun
    · nofun
    · nofun
    · exact leaf_float e.lineHeight
    · nofun
  obtain ⟨kind, path⟩ := mem_between_of_leaf leaf inside
  have field : content.1 ∈ (entryContents e f).keys := List.mem_map_of_mem here
  exact ⟨kind, content.1, field, congrArg (content.1 :: ·) path⟩

end TextStyles

/-! ## Token sets -/

section TokenSets

variable {s t : TokenSet} {c : Change}

/-- The maps of two token sets. -/
def setContents (s t : TokenSet) : OrderedMap String (Json × Json) where
  entries :=
    [("colors", toJson s.colors, toJson t.colors),
      ("typography", toJson s.typography, toJson t.typography),
      ("spacing", toJson s.spacing, toJson t.spacing),
      ("shadows", toJson s.shadows, toJson t.shadows)]
  nodup := by
    show ["colors", "typography", "spacing", "shadows"].Nodup
    decide

theorem same_tokenSet_iff (finite : s.IsFinite) (finite' : t.IsFinite) :
    (toJson s).canonical.same (toJson t).canonical = true ↔ s.SameEntries t := by
  have texts : ∀ m n : OrderedMap String String,
      (toJson m).canonical.same (toJson n).canonical = true ↔ m.SameEntries n :=
    fun m n => same_objectOf_iff_sameEntries fun x _ y _ => same_string x y
  have styles : (toJson s.typography).canonical.same (toJson t.typography).canonical = true ↔
      s.typography.SameEntries t.typography :=
    same_objectOf_iff_sameEntries fun e here f there => same_entry (finite e here) (finite' f there)
  refine (@same_record_iff (setContents s t)).trans ?_
  simp only [setContents, List.forall_mem_cons, texts, styles]
  constructor
  · rintro ⟨colors, typography, spacing, shadows, _⟩
    exact ⟨colors, typography, spacing, shadows⟩
  · rintro ⟨colors, typography, spacing, shadows⟩
    exact ⟨colors, typography, spacing, shadows, nofun⟩

/-- Whether a change is that of an entry which one of two token sets has, or of a field of a text
style which they have under one key. -/
def IsOfEntry (s t : TokenSet) (c : Change) : Prop :=
  ∃ bucket key, (s.Has bucket key ∨ t.Has bucket key) ∧
    (c.path = [bucket, key] ∨ bucket = "typography" ∧ c.kind = .modified ∧
      ∃ field ∈ TypographyEntry.knownFields.map Field.name, c.path = [bucket, key, field])

theorem path_of_mem_texts {m n : OrderedMap String String}
    (member : c ∈ between (toJson m).canonical (toJson n).canonical) :
    ∃ key, (key ∈ m.keys ∨ key ∈ n.keys) ∧ c.path = [key] := by
  obtain ⟨key, d, inside, rfl⟩ := mem_across_objectOf.mp member
  -- A text is no object, so an entry changes as a whole.
  have others : ¬ BothObjects (valueAt toJson m key) (valueAt toJson n key) := by
    rintro ⟨fields, _, text, _⟩
    obtain ⟨_, _, same⟩ := Option.map_eq_some_iff.mp text
    cases same
  have path := ((mem_across_of_not_objects others).mp inside).1
  exact ⟨key, mem_keys_of_mem_across inside, congrArg (key :: ·) path⟩

theorem path_of_mem_styles {m n : OrderedMap String TypographyEntry}
    (member : c ∈ between (toJson m).canonical (toJson n).canonical) :
    ∃ key, (key ∈ m.keys ∨ key ∈ n.keys) ∧ (c.path = [key] ∨ c.kind = .modified ∧
      ∃ field ∈ TypographyEntry.knownFields.map Field.name, c.path = [key, field]) := by
  obtain ⟨key, d, inside, rfl⟩ := mem_across_objectOf.mp member
  refine ⟨key, mem_keys_of_mem_across inside, ?_⟩
  -- Where both sides have a text style, only its fields are compared.
  by_cases objects : BothObjects (valueAt toJson m key) (valueAt toJson n key)
  · obtain ⟨_, _, left, right⟩ := objects
    obtain ⟨e, old, _⟩ := Option.map_eq_some_iff.mp left
    obtain ⟨f, new, _⟩ := Option.map_eq_some_iff.mp right
    rw [valueAt, valueAt, old, new] at inside
    obtain ⟨kind, field, known, path⟩ := mem_across_entry inside
    exact .inr ⟨kind, field, known, congrArg (key :: ·) path⟩
  · have path := ((mem_across_of_not_objects objects).mp inside).1
    exact .inl (congrArg (key :: ·) path)

theorem has_or_has {bucket key : String} {ks ks' : List String} (left : (bucket, ks) ∈ s.buckets)
    (right : (bucket, ks') ∈ t.buckets) (known : key ∈ ks ∨ key ∈ ks') :
    s.Has bucket key ∨ t.Has bucket key :=
  known.imp (fun old => ⟨ks, left, old⟩) fun new => ⟨ks', right, new⟩

theorem isOfEntry_of_texts {bucket : String} {m n : OrderedMap String String}
    (left : (bucket, m.keys) ∈ s.buckets) (right : (bucket, n.keys) ∈ t.buckets)
    (inside : c ∈ between (toJson m).canonical (toJson n).canonical) :
    IsOfEntry s t (c.under [bucket]) := by
  obtain ⟨key, known, path⟩ := path_of_mem_texts inside
  exact ⟨bucket, key, has_or_has left right known, .inl (congrArg (bucket :: ·) path)⟩

theorem isOfEntry_of_styles
    (inside : c ∈ between (toJson s.typography).canonical (toJson t.typography).canonical) :
    IsOfEntry s t (c.under ["typography"]) := by
  obtain ⟨key, known, shape⟩ := path_of_mem_styles inside
  refine ⟨"typography", key, has_or_has (by simp [TokenSet.buckets]) (by simp [TokenSet.buckets])
    known, ?_⟩
  rcases shape with path | ⟨kind, field, name, path⟩
  · exact .inl (congrArg ("typography" :: ·) path)
  · exact .inr ⟨rfl, kind, field, name, congrArg ("typography" :: ·) path⟩

theorem isOfEntry_of_mem (member : c ∈ s.changes t) : c.IsOfEntry s t := by
  obtain ⟨content, here, d, inside, rfl⟩ := (@mem_across_record (setContents s t) c).mp member
  simp only [setContents, List.mem_cons, List.not_mem_nil, or_false] at here
  rcases here with rfl | rfl | rfl | rfl
  · exact isOfEntry_of_texts (by simp [TokenSet.buckets]) (by simp [TokenSet.buckets]) inside
  · exact isOfEntry_of_styles inside
  · exact isOfEntry_of_texts (by simp [TokenSet.buckets]) (by simp [TokenSet.buckets]) inside
  · exact isOfEntry_of_texts (by simp [TokenSet.buckets]) (by simp [TokenSet.buckets]) inside

end TokenSets

end Change

namespace TokenSet

/-- Two token sets with finite line heights have values, and the differences of these are changes of
single entries.  There are none if and only if the sets have equal entries. -/
theorem changes_are_of_entries {s t : TokenSet} (finite : s.IsFinite) (finite' : t.IsFinite) :
    (∃ x y, (toJson s).value? = some x ∧ (toJson t).value? = some y ∧
      s.changes t = Change.between x y) ∧
    (s.changes t = [] ↔ s.SameEntries t) ∧
    ∀ c ∈ s.changes t, c.IsOfEntry s t := by
  have old := s.fits.sound
  have new := t.fits.sound
  refine ⟨⟨_, _, Json.value?_of_isSound old, Json.value?_of_isSound new, rfl⟩, ?_,
    fun c => Change.isOfEntry_of_mem⟩
  have equal := Change.between_eq_nil_iff (Json.isValue_canonical old) (Json.isValue_canonical new)
  exact equal.trans (Change.same_tokenSet_iff finite finite')

/-- A text style of a size. -/
def heading (fontSize : String) : TypographyEntry := ⟨"Inter", fontSize, 700, 1.2, "0px"⟩

/-- A token set with a heading. -/
def light : TokenSet :=
  { empty with
    colors := .ofList [("ink", "#000000"), ("paper", "#ffffff")]
    typography := .ofList [("title", heading "24px")] }

/-- A token set with other colors in another order and a larger heading. -/
def dark : TokenSet :=
  { empty with
    colors := .ofList [("paper", "#111111"), ("ink", "#000000")]
    typography := .ofList [("title", heading "32px")] }

example : light.changes dark =
    [.modified ["colors", "paper"] (.str "#ffffff") (.str "#111111"),
      .modified ["typography", "title", "fontSize"] (.str "24px") (.str "32px")] := by
  rfl

theorem isFinite_heading (fontSize : String) :
    Decimal.isFinite (heading fontSize).lineHeight = true := by
  show Decimal.isFinite 1.2 = true
  decide +kernel

theorem isFinite_of_values_eq {s : TokenSet} {fontSize : String}
    (values : s.typography.values = [heading fontSize]) : s.IsFinite := by
  intro e member
  rw [values, List.mem_singleton] at member
  rw [member]
  exact isFinite_heading fontSize

theorem changes_are_of_entries_light_dark :
    (light.IsFinite ∧ dark.IsFinite) ∧
    (∃ x y, (toJson light).value? = some x ∧ (toJson dark).value? = some y ∧
      light.changes dark = Change.between x y) ∧
    (light.changes dark = [] ↔ light.SameEntries dark) ∧
    ∀ c ∈ light.changes dark, c.IsOfEntry light dark := by
  have finite : light.IsFinite := isFinite_of_values_eq rfl
  have finite' : dark.IsFinite := isFinite_of_values_eq rfl
  exact ⟨⟨finite, finite'⟩, changes_are_of_entries finite finite'⟩

end TokenSet

end DesignTokens
