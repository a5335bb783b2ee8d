import DesignTokens.Proofs.History.Patch

/-!
# Differences

Two values differ at a path where something stands on one side only, or where
unequal things stand on both sides that are not both objects.  The differences
of two values are the changes at just these paths, each of them once.  So no
difference could be named more precisely, and the differences the other way
round are the same ones turned around.
-/

namespace DesignTokens

open Json

/-! ## Paths -/

/-- What stands at a path of keys, each of which leads into an object. -/
def Json.at? : Option Json → List String → Option Json
  | x, [] => x
  | some (.obj fields), key :: path => at? (get? fields key) path
  | _, _ :: _ => none

namespace Change

/-- Whether there are objects on both sides. -/
def BothObjects (x y : Option Json) : Prop := ∃ fs gs, x = some (.obj fs) ∧ y = some (.obj gs)

/-- Whether two sides differ in the way that a kind of change says.  Two objects
never differ as wholes. -/
def Differ (kind : ChangeKind) : Option Json → Option Json → Prop
  | none, none => False
  | none, some _ => kind = .added
  | some _, none => kind = .removed
  | some old, some new =>
    kind = .modified ∧ old.same new = false ∧ ¬ BothObjects (some old) (some new)

/-- Whether a change holds just what stands on the two sides at its path, if that
differs.  All shorter paths on the way have to lead to objects. -/
structure IsReal (x y : Option Json) (c : Change) : Prop where
  old : c.old = at? x c.path
  new : c.new = at? y c.path
  differ : Differ c.kind c.old c.new
  way : ∀ path, path <+: c.path → path ≠ c.path → BothObjects (at? x path) (at? y path)

/-! ## Objects key by key -/

/-- The differences of two sides, each of which is a value or nothing. -/
def across : Option Json → Option Json → List Change
  | none, none => []
  | some old, none => [removed [] old]
  | none, some new => [added [] new]
  | some old, some new => between old new

/-- The keys of an old object, and behind them those that only a new one has. -/
def keysOf (old new : List (String × Json)) : List String :=
  old.map Prod.fst ++ (new.map Prod.fst).filter (fun key => (get? old key).isNone)

/-- The differences of two objects at a key. -/
def atKey (old new : List (String × Json)) (key : String) : List Change :=
  (across (get? old key) (get? new key)).map (under [key])

section Objects

variable {old new : List (String × Json)}

theorem fields_eq_flatMap {rest : List (String × Json)}
    (present : ∀ f ∈ rest, get? old f.1 = some f.2) :
    fields [] new rest = (rest.map Prod.fst).flatMap (atKey old new) := by
  induction rest with
  | nil => simp [fields]
  | cons f rest ih =>
    obtain ⟨key, x⟩ := f
    obtain ⟨here, others⟩ := List.forall_mem_cons.mp present
    have first : fields [] new ((key, x) :: rest) = atKey old new key ++ fields [] new rest := by
      cases after : get? new key with
      | none => simp [fields_cons_of_none after, atKey, here, after, across, under, removed]
      | some y => simp [fields_cons_of_some after, atKey, here, after, across]
    rw [first, ih others, List.map_cons, List.flatMap_cons]

theorem additions_eq_flatMap {rest : List (String × Json)}
    (present : ∀ f ∈ rest, get? new f.1 = some f.2) :
    additions [] old rest =
      ((rest.map Prod.fst).filter (fun key => (get? old key).isNone)).flatMap (atKey old new) := by
  induction rest with
  | nil => simp [additions]
  | cons f rest ih =>
    obtain ⟨key, x⟩ := f
    obtain ⟨here, others⟩ := List.forall_mem_cons.mp present
    cases before : get? old key with
    | none =>
      rw [additions_cons_of_none before, ih others]
      simp [before, atKey, here, across, under, added]
    | some y =>
      rw [additions_cons_of_some before, ih others]
      simp [before]

theorem between_objects (sortedOld : Sorted old) (sortedNew : Sorted new) :
    between (.obj old) (.obj new) = (keysOf old new).flatMap (atKey old new) := by
  rw [between, below, keysOf, List.flatMap_append,
    fields_eq_flatMap fun f member => get?_eq_some_of_mem sortedOld member,
    additions_eq_flatMap fun f member => get?_eq_some_of_mem sortedNew member]

theorem nodup_keysOf (sortedOld : Sorted old) (sortedNew : Sorted new) :
    (keysOf old new).Nodup := by
  refine List.nodup_append.mpr ⟨sortedOld.nodup_keys, sortedNew.nodup_keys.filter _, ?_⟩
  rintro key member _ only rfl
  obtain ⟨f, here, rfl⟩ := List.mem_map.mp member
  simp [get?_eq_some_of_mem sortedOld here] at only

theorem mem_keysOf {key : String} (given : get? old key ≠ none ∨ get? new key ≠ none) :
    key ∈ keysOf old new := by
  rw [keysOf, List.mem_append, List.mem_filter]
  cases before : get? old key with
  | some x => exact .inl (List.mem_map_of_mem (mem_of_get?_eq_some before))
  | none =>
    simp only [before, ne_eq, not_true_eq_false, false_or] at given
    obtain ⟨y, after⟩ := Option.ne_none_iff_exists'.mp given
    exact .inr ⟨List.mem_map_of_mem (mem_of_get?_eq_some after), rfl⟩

end Objects

/-! ## One key further -/

section Sides

variable {x y : Option Json} {c d : Change}

theorem under_inj {key other : String} :
    c.under [key] = d.under [other] ↔ key = other ∧ c = d := by
  cases c
  cases d
  simp only [under, Change.mk.injEq, List.singleton_append, List.cons.injEq]
  tauto

theorem mem_across_objects {fs gs : List (String × Json)} (left : Sorted fs) (right : Sorted gs) :
    c ∈ across (some (.obj fs)) (some (.obj gs)) ↔
      ∃ key, ∃ d ∈ across (get? fs key) (get? gs key), c = d.under [key] := by
  rw [across, between_objects left right]
  simp only [List.mem_flatMap, atKey, List.mem_map]
  constructor
  · rintro ⟨key, -, d, member, rfl⟩
    exact ⟨key, d, member, rfl⟩
  · rintro ⟨key, d, member, rfl⟩
    refine ⟨key, mem_keysOf ?_, d, member, rfl⟩
    -- A key that neither object has would not make a difference.
    by_contra absent
    simp only [ne_eq, not_or, not_not] at absent
    rw [absent.1, absent.2] at member
    cases member

theorem mem_across_of_not_objects (others : ¬ BothObjects x y) :
    c ∈ across x y ↔ c.path = [] ∧ c.old = x ∧ c.new = y ∧ Differ c.kind x y := by
  obtain ⟨kind, path, before, after⟩ := c
  cases x with
  | none =>
    cases y with
    | none => simp [across, Differ]
    | some new =>
      simp only [across, Differ, added, List.mem_singleton, Change.mk.injEq]
      tauto
  | some old =>
    cases y with
    | none =>
      simp only [across, Differ, removed, List.mem_singleton, Change.mk.injEq]
      tauto
    | some new =>
      have whole : ∀ fs gs, old = .obj fs → new = .obj gs → False :=
        fun fs gs left right => others ⟨fs, gs, congrArg some left, congrArg some right⟩
      rw [across, between, below_of_not_objects whole]
      cases equal : old.same new with
      | true => simp [Differ, equal]
      | false =>
        simp only [Differ, equal, others, modified, List.mem_singleton, Change.mk.injEq,
          Bool.false_eq_true, if_false, not_false_eq_true, and_true]
        tauto

theorem not_differ_of_objects {kind : ChangeKind} (objects : BothObjects x y) :
    ¬ Differ kind x y := by
  obtain ⟨fs, gs, rfl, rfl⟩ := objects
  rintro ⟨-, -, others⟩
  exact others ⟨fs, gs, rfl, rfl⟩

theorem isReal_nil {kind : ChangeKind} {before after : Option Json} :
    IsReal x y ⟨kind, [], before, after⟩ ↔ before = x ∧ after = y ∧ Differ kind x y := by
  constructor
  · rintro ⟨rfl, rfl, differ, -⟩
    exact ⟨rfl, rfl, differ⟩
  · rintro ⟨rfl, rfl, differ⟩
    refine ⟨rfl, rfl, differ, fun path first apart => ?_⟩
    exact absurd (List.prefix_nil.mp first) apart

theorem isReal_under {key : String} :
    IsReal x y (c.under [key]) ↔ ∃ fs gs, x = some (.obj fs) ∧ y = some (.obj gs) ∧
      IsReal (get? fs key) (get? gs key) c := by
  constructor
  · rintro ⟨old, new, differ, way⟩
    -- The empty path is on the way to the key, so there are objects to begin with.
    obtain ⟨fs, gs, rfl, rfl⟩ := way [] List.nil_prefix nofun
    refine ⟨fs, gs, rfl, rfl, old, new, differ, fun path first apart => ?_⟩
    apply way (key :: path) (List.cons_prefix_cons.mpr ⟨rfl, first⟩)
    exact fun same => apart (List.cons.inj same).2
  · rintro ⟨fs, gs, rfl, rfl, old, new, differ, way⟩
    refine ⟨old, new, differ, fun path first apart => ?_⟩
    cases path with
    | nil => exact ⟨fs, gs, rfl, rfl⟩
    | cons other path =>
      obtain ⟨same, rest⟩ := List.cons_prefix_cons.mp first
      subst same
      exact way path rest fun same => apart (same ▸ rfl)

/-! ## Real changes -/

/-- Whether there is a value or nothing. -/
def IsSide (x : Option Json) : Prop := ∀ j ∈ x, IsValue j

theorem isSide_some {j : Json} (value : IsValue j) : IsSide (some j) :=
  fun _ same => Option.some.inj same ▸ value

theorem isSide_get? {fs : List (String × Json)} (values : HaveValues fs) (key : String) :
    IsSide (get? fs key) := fun _ found => isValue_of_get? values found

theorem mem_across_iff (left : IsSide x) (right : IsSide y) : c ∈ across x y ↔ IsReal x y c := by
  -- By induction on the path, whose first key leads into both objects at once.
  obtain ⟨kind, path, before, after⟩ := c
  induction path generalizing x y with
  | nil =>
    by_cases objects : BothObjects x y
    · have same : ¬ Differ kind x y := not_differ_of_objects objects
      obtain ⟨fs, gs, rfl, rfl⟩ := objects
      simp only [isReal_nil, same, and_false, iff_false,
        mem_across_objects (left _ rfl).1 (right _ rfl).1]
      rintro ⟨key, d, -, whole⟩
      cases whole
    · rw [isReal_nil, mem_across_of_not_objects objects]
      simp
  | cons key path ih =>
    have parts : Change.mk kind (key :: path) before after
      = under [key] ⟨kind, path, before, after⟩ := rfl
    rw [parts, isReal_under]
    by_cases objects : BothObjects x y
    · obtain ⟨fs, gs, rfl, rfl⟩ := objects
      obtain ⟨sorted, values⟩ := left _ rfl
      obtain ⟨sorted', values'⟩ := right _ rfl
      have further := ih (isSide_get? values key) (isSide_get? values' key)
      rw [mem_across_objects sorted sorted']
      simp only [under_inj]
      constructor
      · rintro ⟨_, _, member, rfl, rfl⟩
        exact ⟨fs, gs, rfl, rfl, further.mp member⟩
      · rintro ⟨_, _, ⟨⟩, ⟨⟩, real⟩
        exact ⟨key, _, further.mpr real, rfl, rfl⟩
    · rw [mem_across_of_not_objects objects]
      constructor
      · rintro ⟨empty, -⟩
        cases empty
      · rintro ⟨fs, gs, rfl, rfl, -⟩
        exact absurd ⟨fs, gs, rfl, rfl⟩ objects

theorem mem_between_iff {old new : Json} (left : IsValue old) (right : IsValue new) :
    c ∈ between old new ↔ IsReal (some old) (some new) c :=
  mem_across_iff (isSide_some left) (isSide_some right)

theorem Differ.kind_eq {kind other : ChangeKind} (first : Differ kind x y)
    (second : Differ other x y) : kind = other := by
  cases x with
  | none =>
    cases y with
    | none => exact first.elim
    | some new => exact first.trans second.symm
  | some old =>
    cases y with
    | none => exact first.trans second.symm
    | some new => exact first.1.trans second.1.symm

/-- Of two real changes, none is at the path of the other or further down. -/
theorem IsReal.eq_of_leadsTo (real : IsReal x y c) (real' : IsReal x y d)
    (first : c.path <+: d.path) : c = d := by
  by_cases same : c.path = d.path
  · have old : c.old = d.old := by rw [real.old, real'.old, same]
    have new : c.new = d.new := by rw [real.new, real'.new, same]
    have kind : c.kind = d.kind := by
      apply Differ.kind_eq real.differ
      rw [old, new]
      exact real'.differ
    cases c
    cases d
    exact (Change.mk.injEq ..).mpr ⟨kind, same, old, new⟩
  · -- The longer path goes on below two objects, which do not differ as wholes.
    have objects := real'.way c.path first same
    rw [← real.old, ← real.new] at objects
    exact absurd real.differ (not_differ_of_objects objects)

/-! ## Each change once -/

theorem nodup_between_of_not_objects {old new : Json}
    (others : ∀ fs gs, old = .obj fs → new = .obj gs → False) : (between old new).Nodup := by
  rw [between, below_of_not_objects others]
  split <;> simp

mutual

theorem nodup_between : ∀ {old new : Json}, IsValue old → IsValue new → (between old new).Nodup
  | .obj old, .obj new, ⟨sortedOld, valuesOld⟩, ⟨sortedNew, valuesNew⟩ => by
    rw [between_objects sortedOld sortedNew, List.nodup_flatMap]
    refine ⟨fun key _ => ?_, (nodup_keysOf sortedOld sortedNew).imp fun apart => ?_⟩
    · apply (nodup_across valuesOld key (isSide_get? valuesNew key)).map
      exact fun c d same => (under_inj.mp same).2
    · -- Changes below different keys already differ in the first keys of their paths.
      intro c here there
      obtain ⟨d, _, rfl⟩ := List.mem_map.mp here
      obtain ⟨e, _, same⟩ := List.mem_map.mp there
      exact apart (under_inj.mp same).1.symm
  | .null, _, _, _ | .bool _, _, _, _ | .num _, _, _, _ | .str _, _, _, _ | .arr _, _, _, _ =>
    nodup_between_of_not_objects (by simp)
  | .obj _, .null, _, _ | .obj _, .bool _, _, _ | .obj _, .num _, _, _ | .obj _, .str _, _, _
  | .obj _, .arr _, _, _ =>
    nodup_between_of_not_objects (by simp)

theorem nodup_across : ∀ {fs : List (String × Json)}, HaveValues fs → ∀ (key : String)
    {y : Option Json}, IsSide y → (across (get? fs key) y).Nodup
  | [], _, _, none, _ => List.nodup_nil
  | [], _, _, some _, _ => List.nodup_singleton _
  | (k, old) :: fs, ⟨first, rest⟩, key, y, right => by
    rw [get?_cons]
    split
    · cases y with
      | none => exact List.nodup_singleton _
      | some new => exact nodup_between first (right new rfl)
    · exact nodup_across rest key right

end

theorem pairwise_between {old new : Json} (left : IsValue old) (right : IsValue new) :
    (between old new).Pairwise (fun c d => ¬ c.path <+: d.path ∧ ¬ d.path <+: c.path) := by
  have real : ∀ c ∈ between old new, IsReal (some old) (some new) c :=
    fun c member => (mem_between_iff left right).mp member
  apply (nodup_between left right).pairwise_of_forall_ne
  intro c here d there apart
  constructor
  · exact fun first => apart ((real c here).eq_of_leadsTo (real d there) first)
  · exact fun first => apart ((real d there).eq_of_leadsTo (real c here) first).symm

/-! ## Equal values -/

theorem agree_at? (agree : Agree x y) (path : List String) : Agree (at? x path) (at? y path) := by
  induction path generalizing x y with
  | nil => rwa [at?, at?]
  | cons key path ih =>
    cases agree with
    | none => exact .none
    | @some i j equal =>
      -- An object is only equal to an object, and nothing else has keys.
      cases i with
      | obj fs =>
        cases j with
        | obj gs => exact ih (rel_get?_of_sameFields equal key)
        | _ => cases equal
      | _ =>
        cases j with
        | obj gs => cases equal
        | _ => exact .none

theorem not_differ_of_agree {kind : ChangeKind} (agree : Agree x y) : ¬ Differ kind x y := by
  cases agree with
  | none => exact id
  | some equal =>
    rintro ⟨-, unequal, -⟩
    rw [equal] at unequal
    cases unequal

end Sides

theorem between_eq_nil_iff {old new : Json} (left : IsValue old) (right : IsValue new) :
    between old new = [] ↔ old.same new = true := by
  constructor
  · intro nothing
    -- With no changes to carry out, the old value is the new one already.
    obtain ⟨j, patched, equal⟩ := exists_patchAll?_below left right
    rw [nothing] at patched
    cases patched
    exact equal
  · intro equal
    refine List.eq_nil_iff_forall_not_mem.mpr fun c member => ?_
    obtain ⟨old, new, differ, -⟩ := (mem_between_iff left right).mp member
    rw [old, new] at differ
    exact not_differ_of_agree (agree_at? (.some equal) c.path) differ

/-- The differences of two values are the real changes between them: each is there once, none is
at the path of another or further down, and equal values have none. -/
theorem differences_are_real_and_apart {old new : Json} (left : IsValue old)
    (right : IsValue new) :
    (∀ c, c ∈ between old new ↔ IsReal (some old) (some new) c) ∧
    (between old new).Pairwise (fun c d => ¬ c.path <+: d.path ∧ ¬ d.path <+: c.path) ∧
    (between old new = [] ↔ old.same new = true) :=
  ⟨fun _ => mem_between_iff left right, pairwise_between left right, between_eq_nil_iff left right⟩

/-- An object that changes inside, and keys that come and go beside it. -/
def palette : Json :=
  .obj [("ink", .obj [("b", .num (.whole 1)), ("c", .arr [.null])]), ("rim", .null)]

@[inherit_doc palette]
def newPalette : Json :=
  .obj [("ink", .obj [("b", .num (.real 1.0)), ("c", .arr [.null])]), ("tint", .str "x")]

example : between palette newPalette =
    [modified ["ink", "b"] (.num (.whole 1)) (.num (.real 1.0)), removed ["rim"] .null,
      added ["tint"] (.str "x")] := by
  rfl

theorem isValue_palette : IsValue palette := by
  simp only [palette, IsValue, HaveValues, AreValues, Sorted, and_true]
  decide

theorem isValue_newPalette : IsValue newPalette := by
  simp only [newPalette, IsValue, HaveValues, AreValues, Sorted, and_true]
  decide +kernel

theorem differences_are_real_and_apart_palette :
    (IsValue palette ∧ IsValue newPalette) ∧
    (∀ c, c ∈ between palette newPalette ↔ IsReal (some palette) (some newPalette) c) ∧
    (between palette newPalette).Pairwise (fun c d => ¬ c.path <+: d.path ∧ ¬ d.path <+: c.path) ∧
    (between palette newPalette = [] ↔ palette.same newPalette = true) :=
  ⟨⟨isValue_palette, isValue_newPalette⟩,
    differences_are_real_and_apart isValue_palette isValue_newPalette⟩

/-! ## The other way round -/

end Change

/-- The kind of a change that is turned around. -/
def ChangeKind.mirrored : ChangeKind → ChangeKind
  | .added => .removed
  | .modified => .modified
  | .removed => .added

namespace Change

/-- A change from the new side to the old one. -/
def mirrored (c : Change) : Change := ⟨c.kind.mirrored, c.path, c.new, c.old⟩

theorem mirrored_mirrored (c : Change) : c.mirrored.mirrored = c := by
  obtain ⟨kind, path, old, new⟩ := c
  cases kind <;> rfl

section Mirrored

variable {x y : Option Json} {c : Change}

theorem Differ.mirrored {kind : ChangeKind} (differ : Differ kind x y) :
    Differ kind.mirrored y x := by
  cases x with
  | none =>
    cases y with
    | none => exact differ
    | some new => exact congrArg ChangeKind.mirrored differ
  | some old =>
    cases y with
    | none => exact congrArg ChangeKind.mirrored differ
    | some new =>
      obtain ⟨kind, unequal, others⟩ := differ
      refine ⟨congrArg ChangeKind.mirrored kind, (same_comm new old).trans unequal, ?_⟩
      rintro ⟨gs, fs, right, left⟩
      exact others ⟨fs, gs, left, right⟩

theorem IsReal.mirrored (real : IsReal x y c) : IsReal y x c.mirrored where
  old := real.new
  new := real.old
  differ := real.differ.mirrored
  way path first apart := by
    obtain ⟨fs, gs, left, right⟩ := real.way path first apart
    exact ⟨gs, fs, right, left⟩

end Mirrored

/-- The differences the other way round are the same changes, turned around, in some order. -/
theorem perm_between_mirrored {a b : Json} (left : IsValue a) (right : IsValue b) :
    (between b a).Perm ((between a b).map mirrored) := by
  have once : ((between a b).map mirrored).Nodup :=
    (nodup_between left right).map (Function.LeftInverse.injective mirrored_mirrored)
  -- Neither list has a change twice, so that it is enough to compare what is in them.
  refine (List.perm_ext_iff_of_nodup (nodup_between right left) once).mpr fun c => ?_
  rw [List.mem_map_of_involutive mirrored_mirrored, mem_between_iff left right,
    mem_between_iff right left]
  constructor
  · exact IsReal.mirrored
  · intro real
    rw [← mirrored_mirrored c]
    exact real.mirrored

theorem perm_between_mirrored_palette :
    (IsValue palette ∧ IsValue newPalette) ∧
      (between newPalette palette).Perm ((between palette newPalette).map mirrored) :=
  ⟨⟨isValue_palette, isValue_newPalette⟩,
    perm_between_mirrored isValue_palette isValue_newPalette⟩

end Change

end DesignTokens
