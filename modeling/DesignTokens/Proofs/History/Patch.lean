import DesignTokens.History.Patch
import DesignTokens.Proofs.History.Ledger

/-!
# Changes as patches

Carried out in order, the differences of two values turn the old value into the
new one.  The changes below one key of an object leave its other keys alone,
which is why the changes of siblings do not get into each other's way.
-/

namespace DesignTokens.Change

open Json

/-! ## Paths -/

/-- A change with more keys in front of its path. -/
def under (path : List String) (c : Change) : Change := { c with path := path ++ c.path }

theorem below_of_not_objects {old new : Json}
    (others : ∀ fs gs, old = .obj fs → new = .obj gs → False) (path : List String) :
    below path old new = if old.same new then [] else [modified path old new] := by
  unfold below
  split
  · exact (others _ _ rfl rfl).elim
  · rfl

theorem additions_append (path inner : List String) (old new : List (String × Json)) :
    additions (path ++ inner) old new = (additions inner old new).map (under path) := by
  simp only [additions, List.map_filterMap]
  congr 1
  funext ⟨key, value⟩
  cases get? old key <;> simp [under, added]

mutual

/-- The path at which two values are compared only shows in the paths of their
changes. -/
theorem below_append (path inner : List String) : ∀ (old new : Json),
    below (path ++ inner) old new = (below inner old new).map (under path)
  | .obj old, .obj new => by
    rw [below, below, List.map_append, fields_append path inner new old, additions_append]
  | .null, new | .bool _, new | .num _, new | .str _, new | .arr _, new | .unreadable, new => by
    rw [below_of_not_objects (by simp), below_of_not_objects (by simp)]
    split <;> rfl
  | .obj _, .null | .obj _, .bool _ | .obj _, .num _ | .obj _, .str _ | .obj _, .arr _
  | .obj _, .unreadable => by
    rw [below_of_not_objects (by simp), below_of_not_objects (by simp)]
    split <;> rfl

theorem fields_append (path inner : List String) (new : List (String × Json)) :
    ∀ old : List (String × Json),
      fields (path ++ inner) new old = (fields inner new old).map (under path)
  | [] => by simp [fields]
  | (key, value) :: old => by
    rw [fields, fields, List.map_append, fields_append path inner new old]
    congr 1
    cases get? new key with
    | none => simp [under, removed]
    | some other =>
      simp only [List.append_assoc]
      exact below_append path (inner ++ [key]) value other

end

theorem below_singleton (key : String) (old new : Json) :
    below [key] old new = (between old new).map (under [key]) :=
  below_append [key] [] old new

theorem fields_cons_of_none {new : List (String × Json)} {key : String}
    (gone : get? new key = none) (value : Json) (old : List (String × Json)) :
    fields [] new ((key, value) :: old) = [removed [key] value] ++ fields [] new old := by
  rw [fields, gone]
  rfl

theorem fields_cons_of_some {new : List (String × Json)} {key : String} {other : Json}
    (found : get? new key = some other) (value : Json) (old : List (String × Json)) :
    fields [] new ((key, value) :: old)
      = (between value other).map (under [key]) ++ fields [] new old := by
  rw [fields, found, ← below_singleton]
  rfl

theorem additions_cons_of_none {old : List (String × Json)} {key : String}
    (absent : get? old key = none) (value : Json) (new : List (String × Json)) :
    additions [] old ((key, value) :: new) = added [key] value :: additions [] old new := by
  simp [additions, absent]

theorem additions_cons_of_some {old : List (String × Json)} {key : String} {other : Json}
    (found : get? old key = some other) (value : Json) (new : List (String × Json)) :
    additions [] old ((key, value) :: new) = additions [] old new := by
  simp [additions, found]

/-! ## Patching an object -/

theorem patchAll?_append (cs ds : List Change) (j : Json) :
    patchAll? (cs ++ ds) j = (patchAll? cs j).bind (patchAll? ds) := List.foldlM_append

theorem patchAll?_cons (c : Change) (cs : List Change) (j : Json) :
    patchAll? (c :: cs) j = (c.patch? j).bind (patchAll? cs) := List.foldlM_cons

theorem patchAll?_singleton (c : Change) (j : Json) : patchAll? [c] j = c.patch? j := by
  rw [patchAll?_cons]
  exact Option.bind_fun_some _

/-- The fields `gs` are the fields `fs` but for one key. -/
structure Sets (key : String) (value : Option Json) (fs gs : List (String × Json)) : Prop where
  sorted : Sorted gs
  get? (other : String) : get? gs other = if other = key then value else get? fs other

namespace Sets

variable {key : String} {value : Option Json} {fs gs hs : List (String × Json)}

theorem refl (sorted : Sorted fs) : Sets key (Json.get? fs key) fs fs where
  sorted := sorted
  get? other := by
    split
    · rename_i here
      rw [here]
    · rfl

theorem trans {earlier : Option Json} (first : Sets key earlier fs gs)
    (second : Sets key value gs hs) : Sets key value fs hs where
  sorted := second.sorted
  get? other := by
    rw [second.get?, first.get?]
    split <;> rfl

theorem get?_self (set : Sets key value fs gs) : Json.get? gs key = value := by
  rw [set.get?, if_pos rfl]

theorem get?_of_ne (set : Sets key value fs gs) {other : String} (apart : other ≠ key) :
    Json.get? gs other = Json.get? fs other := by rw [set.get?, if_neg apart]

theorem remove (sorted : Sorted fs) : Sets key none fs (fs.filter (fun f => f.1 != key)) where
  sorted := sorted_filter _ sorted
  get? other := get?_filter_ne key other fs

theorem put (sorted : Sorted fs) (x : Json) :
    Sets key (some x) fs (insertSorted key x (fs.filter (fun f => f.1 != key))) where
  sorted := sorted_insertSorted key x (sorted_filter _ sorted)
  get? other := by
    rw [get?_insertSorted, get?_filter_ne]
    split <;> rfl

end Sets

/-- Whatever a change does to the value of a key, below the key it does the same
to the object. -/
theorem exists_patch?_under {fs : List (String × Json)} (sorted : Sorted fs) {key : String}
    {x y : Json} (here : get? fs key = some x) {c : Change} (patched : c.patch? x = some y) :
    ∃ gs, (c.under [key]).patch? (.obj fs) = some (.obj gs) ∧ Sets key (some y) fs gs := by
  refine ⟨_, ?_, Sets.put sorted y⟩
  have edited : editAt c.edit c.path (some x) = some (some y) := by
    cases run : editAt c.edit c.path (some x) with
    | none => simp [patch?, run] at patched
    | some value => simpa [patch?, run] using patched
  show (do let j ← editAt c.edit (key :: c.path) (some (.obj fs)); j) = _
  simp only [editAt, editField, here, edited]
  rfl

theorem exists_patchAll?_under {key : String} {cs : List Change} {fs : List (String × Json)}
    (sorted : Sorted fs) {x y : Json} (here : get? fs key = some x)
    (patched : patchAll? cs x = some y) :
    ∃ gs, patchAll? (cs.map (under [key])) (.obj fs) = some (.obj gs) ∧
      Sets key (some y) fs gs := by
  -- The object after a change is again one in which the key leads to the value so far.
  induction cs generalizing fs x with
  | nil =>
    cases patched
    exact ⟨fs, rfl, here ▸ Sets.refl sorted⟩
  | cons c cs ih =>
    rw [patchAll?_cons] at patched
    obtain ⟨z, first, rest⟩ := Option.bind_eq_some_iff.mp patched
    obtain ⟨gs, run, set⟩ := exists_patch?_under sorted here first
    obtain ⟨hs, runs, sets⟩ := ih set.sorted set.get?_self rest
    refine ⟨hs, ?_, set.trans sets⟩
    rw [List.map_cons, patchAll?_cons, run]
    exact runs

theorem exists_patch?_removed {fs : List (String × Json)} (sorted : Sorted fs) {key : String}
    {x : Json} (here : get? fs key = some x) :
    ∃ gs, (removed [key] x).patch? (.obj fs) = some (.obj gs) ∧ Sets key none fs gs := by
  refine ⟨_, ?_, Sets.remove sorted⟩
  simp only [patch?, removed, editAt, editField, edit, here]
  rfl

theorem exists_patch?_added {fs : List (String × Json)} (sorted : Sorted fs) {key : String}
    (absent : get? fs key = none) (x : Json) :
    ∃ gs, (added [key] x).patch? (.obj fs) = some (.obj gs) ∧ Sets key (some x) fs gs := by
  refine ⟨_, ?_, Sets.put sorted x⟩
  simp only [patch?, added, editAt, editField, edit, absent]
  rfl

/-! ## The differences of two values -/

/-- The new value, under the equality of values. -/
def Agree (x y : Option Json) : Prop := Option.Rel (fun x y => x.same y = true) x y

theorem exists_patchAll?_of_not_objects {old new : Json}
    (others : ∀ fs gs, old = .obj fs → new = .obj gs → False) (value : IsValue new) :
    ∃ j, patchAll? (between old new) old = some j ∧ j.same new = true := by
  rw [between, below_of_not_objects others]
  split
  · rename_i equal
    exact ⟨old, rfl, equal⟩
  · exact ⟨new, rfl, same_self value⟩

/-- What is only in a new object is added to the old one. -/
theorem exists_patchAll?_additions (old : List (String × Json)) :
    ∀ {rest fs : List (String × Json)}, Sorted rest → Sorted fs →
      (∀ f ∈ rest, get? old f.1 = none → get? fs f.1 = none) →
      ∃ gs, patchAll? (additions [] old rest) (.obj fs) = some (.obj gs) ∧ Sorted gs ∧
        ∀ key, get? gs key =
          if get? old key = none then (get? rest key).or (get? fs key) else get? fs key
  | [], fs, _, sorted, _ => ⟨fs, rfl, sorted, fun key => by simp [get?_nil]⟩
  | (key, x) :: rest, fs, sortedRest, sorted, absent => by
    obtain ⟨lowest, sortedRest⟩ := sorted_cons.mp sortedRest
    have apart := ne_of_lowest lowest
    -- Only a key that is new makes a change, and this change comes before those of later keys.
    cases before : get? old key with
    | some y =>
      obtain ⟨gs, run, sortedGs, found⟩ := exists_patchAll?_additions old sortedRest sorted
        (fun f member => absent f (List.mem_cons_of_mem _ member))
      refine ⟨gs, ?_, sortedGs, fun other => ?_⟩
      · rw [additions_cons_of_some before]
        exact run
      · rw [found]
        split
        · rename_i gone
          have elsewhere : other ≠ key := fun e => by simp [e, before] at gone
          rw [get?_cons, if_neg elsewhere]
        · rfl
    | none =>
      obtain ⟨gs, run, set⟩ := exists_patch?_added sorted
        (absent (key, x) List.mem_cons_self before) x
      obtain ⟨hs, runs, sortedHs, found⟩ := exists_patchAll?_additions old sortedRest
        set.sorted (fun f member gone => by
          rw [set.get?_of_ne (apart f member)]
          exact absent f (List.mem_cons_of_mem _ member) gone)
      refine ⟨hs, ?_, sortedHs, fun other => ?_⟩
      · rw [additions_cons_of_none before, patchAll?_cons, run]
        exact runs
      · rw [found, get?_cons, set.get?]
        by_cases e : other = key
        · subst e
          rw [if_pos before, if_pos before, if_pos rfl, if_pos rfl, get?_eq_none_of_ne apart]
          rfl
        · rw [if_neg e, if_neg e]

mutual

theorem exists_patchAll?_below : ∀ {old new : Json}, IsValue old → IsValue new →
    ∃ j, patchAll? (between old new) old = some j ∧ j.same new = true
  | .obj old, .obj new, ⟨sortedOld, valuesOld⟩, ⟨sortedNew, valuesNew⟩ => by
    obtain ⟨fs, changed, sortedFs, found, others⟩ :=
      exists_patchAll?_fields sortedNew valuesNew sortedOld valuesOld sortedOld
        (fun f member => get?_eq_some_of_mem sortedOld member)
    obtain ⟨gs, added, sortedGs, lookups⟩ := exists_patchAll?_additions old sortedNew
      sortedFs (fun f _ gone => by rw [others _ gone]; exact gone)
    -- Old keys are settled by the changes of fields, and new ones by the additions.
    refine ⟨.obj gs, ?_, sameFields_of_get? sortedGs sortedNew fun key => ?_⟩
    · rw [between, below, patchAll?_append, changed]
      exact added
    · rw [lookups]
      cases before : get? old key with
      | some x =>
        rw [if_neg (by simp)]
        exact found key (by simp [before])
      | none =>
        rw [if_pos rfl, others key before, before, Option.or_none]
        cases after : get? new key with
        | none => exact .none
        | some x => exact .some (same_self (isValue_of_get? valuesNew after))
  | .null, _, _, value | .bool _, _, _, value | .num _, _, _, value | .str _, _, _, value
  | .arr _, _, _, value =>
    exists_patchAll?_of_not_objects (by simp) value
  | .obj _, .null, _, value | .obj _, .bool _, _, value | .obj _, .num _, _, value
  | .obj _, .str _, _, value | .obj _, .arr _, _, value =>
    exists_patchAll?_of_not_objects (by simp) value

/-- Key by key, the fields of an old object come to agree with the new one. -/
theorem exists_patchAll?_fields {new : List (String × Json)} : ∀ {rest fs : List (String × Json)},
    Sorted new → HaveValues new → Sorted rest → HaveValues rest → Sorted fs →
      (∀ f ∈ rest, get? fs f.1 = some f.2) →
      ∃ gs, patchAll? (fields [] new rest) (.obj fs) = some (.obj gs) ∧ Sorted gs ∧
        (∀ key, get? rest key ≠ none → Agree (get? gs key) (get? new key)) ∧
        ∀ key, get? rest key = none → get? gs key = get? fs key
  | [], fs, _, _, _, _, sorted, _ =>
    ⟨fs, rfl, sorted, fun key given => absurd (get?_nil key) given, fun _ _ => rfl⟩
  | (key, x) :: rest, fs, sortedNew, valuesNew, sortedRest, ⟨value, values⟩, sorted, present => by
    obtain ⟨lowest, sortedRest⟩ := sorted_cons.mp sortedRest
    have apart := ne_of_lowest lowest
    have here : get? fs key = some x := present (key, x) List.mem_cons_self
    -- The changes of this key, whichever they are, set the key alone.
    have step : ∃ cs gs y, fields [] new ((key, x) :: rest) = cs ++ fields [] new rest ∧
        patchAll? cs (.obj fs) = some (.obj gs) ∧ Sets key y fs gs ∧ Agree y (get? new key) := by
      cases after : get? new key with
      | none =>
        obtain ⟨gs, run, set⟩ := exists_patch?_removed sorted here
        have runs := (patchAll?_singleton _ _).trans run
        exact ⟨_, gs, none, fields_cons_of_none after x rest, runs, set, .none⟩
      | some other =>
        obtain ⟨j, patched, equal⟩ := exists_patchAll?_below value
          (isValue_of_get? valuesNew after)
        obtain ⟨gs, run, set⟩ := exists_patchAll?_under sorted here patched
        exact ⟨_, gs, some j, fields_cons_of_some after x rest, run, set, .some equal⟩
    obtain ⟨cs, gs, y, parts, run, set, agree⟩ := step
    obtain ⟨hs, runs, sortedHs, found, others⟩ :=
      exists_patchAll?_fields sortedNew valuesNew sortedRest values set.sorted (fun f member => by
        rw [set.get?_of_ne (apart f member)]
        exact present f (List.mem_cons_of_mem _ member))
    refine ⟨hs, ?_, sortedHs, fun other given => ?_, fun other absent => ?_⟩
    · rw [parts, patchAll?_append, run]
      exact runs
    · rw [get?_cons] at given
      by_cases e : other = key
      · subst e
        rw [others other (get?_eq_none_of_ne apart), set.get?_self]
        exact agree
      · rw [if_neg e] at given
        exact found other given
    · rw [get?_cons] at absent
      by_cases e : other = key
      · rw [if_pos e] at absent
        cases absent
      · rw [if_neg e] at absent
        rw [others other absent, set.get?_of_ne e]

end

/-! ## Versions -/

/-- Comparing two versions that are kept lists the changes of their token sets. -/
theorem compare_eq_ok {σ : Type} {store : Store (StateM σ)} {s s' : σ} {oldId newId : String}
    {vs : List Version} {old new : Version}
    (kept : (History.versions store).run s = (.ok vs, s'))
    (foundOld : History.find vs oldId = .ok old) (foundNew : History.find vs newId = .ok new) :
    (History.compare store oldId newId).run s = (.ok (old.tokens.changes new.tokens), s') := by
  refine (Fallible.run_bind_ok kept).trans ?_
  rw [foundOld, foundNew]
  rfl

/-- The differences of two values turn the old one into the new one, and those of two
versions turn the token set of the old one into that of the new one. -/
theorem exists_patchAll?_between :
    (∀ old new : Json, IsValue old → IsValue new →
      ∃ j, patchAll? (between old new) old = some j ∧ j.same new = true) ∧
    ∀ {σ : Type} (store : Store (StateM σ)) (s s' : σ) (vs : List Version)
      (oldId newId : String) (old new : Version),
      (History.versions store).run s = (.ok vs, s') →
      History.find vs oldId = .ok old → History.find vs newId = .ok new →
      ∃ cs j, (History.compare store oldId newId).run s = (.ok cs, s') ∧
        patchAll? cs (toJson old.tokens).canonical = some j ∧
        j.same (toJson new.tokens).canonical = true := by
  refine ⟨fun _ _ => exists_patchAll?_below, ?_⟩
  intro σ store s s' vs oldId newId old new kept foundOld foundNew
  obtain ⟨j, patched, equal⟩ := exists_patchAll?_below
    (isValue_canonical old.tokens.fits.sound)
    (isValue_canonical new.tokens.fits.sound)
  exact ⟨_, j, compare_eq_ok kept foundOld foundNew, patched, equal⟩

/-- A field that gives way to another one, and two versions on a shelf. -/
theorem exists_patchAll?_between_shelf :
    (∃ j, patchAll? (between (.obj [("a", .num (.whole 1))]) (.obj [("b", .null)]))
      (.obj [("a", .num (.whole 1))]) = some j ∧ j.same (.obj [("b", .null)]) = true) ∧
    let old := Version.new ⟨"1", 0⟩ .empty "" ""
    let new := Version.new ⟨"2", 1⟩ ⟨.ofList [("ink", "#000")], .empty, .empty, .empty⟩ "" ""
    let shelf : Shelf := OrderedMap.empty.insert History.versionsKey (toJson [new, old]).compact
    ∃ cs j, (History.compare Store.memory "1" "2").run shelf = (.ok cs, shelf) ∧
      patchAll? cs (toJson old.tokens).canonical = some j ∧
      j.same (toJson new.tokens).canonical = true := by
  refine ⟨exists_patchAll?_between.1 _ _ ?_ ?_, ?_⟩
  · simp [IsValue, HaveValues, Sorted]
  · simp [IsValue, HaveValues, Sorted]
  · intro old new shelf
    have lossless : ∀ v ∈ [new, old], v.tokens.IsLossless := by
      intro v member e here
      simp only [List.mem_cons, List.not_mem_nil, or_false] at member
      rcases member with rfl | rfl <;> cases here
    have listed : (History.versions Store.memory).run shelf = (.ok [new, old], shelf) :=
      History.versions_memory lossless (OrderedMap.get?_alter _ _ _ _)
    exact exists_patchAll?_between.2 Store.memory shelf shelf [new, old] "1" "2" old new listed
      rfl rfl

end DesignTokens.Change
