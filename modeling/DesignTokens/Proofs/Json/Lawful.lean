import DesignTokens.Proofs.Json.Possible
import DesignTokens.Proofs.Json.Record

/-!
# Types that are read as they are written

A type is lawful if its values are read back from the documents that are written
for them, in both spellings, as long as all their numbers are finite, and if
nothing but such values is read from a document.

Records are lawful if their fields are: the fields that are written are found
again under their names, whatever order they are in, and those that are left
out are missing.
-/

namespace DesignTokens

/-! ## Finite numbers -/

/-- Types whose values may hold numbers. -/
class HasFinite (α : Type) where
  /-- Whether all numbers in a value are finite. -/
  IsFinite : α → Prop

export HasFinite (IsFinite)

instance : HasFinite Float := ⟨fun x => Decimal.isFinite x = true⟩

instance (x : Float) : Decidable (IsFinite x) :=
  inferInstanceAs (Decidable (Decimal.isFinite x = true))

instance : HasFinite Bool := ⟨fun _ => True⟩
instance : HasFinite String := ⟨fun _ => True⟩
instance : HasFinite UInt32 := ⟨fun _ => True⟩
instance : HasFinite UInt64 := ⟨fun _ => True⟩
instance {α : Type} [Alternatives α] : HasFinite α := ⟨fun _ => True⟩
instance {α : Type} [HasFinite α] : HasFinite (List α) := ⟨fun xs => ∀ x ∈ xs, IsFinite x⟩
instance {α : Type} [HasFinite α] : HasFinite (Option α) := ⟨fun o => ∀ x ∈ o, IsFinite x⟩

section

variable {α : Type} [HasFinite α]

theorem isFinite_nil : IsFinite ([] : List α) := List.forall_mem_nil _

theorem isFinite_none : IsFinite (none : Option α) := nofun

theorem isFinite_some {x : α} : IsFinite (some x) ↔ IsFinite x :=
  ⟨fun finite => finite x rfl, fun finite _ member => Option.some.inj member ▸ finite⟩

end

open Json

/-! ## Lawful types -/

/-- A value that is read from both spellings of the document that is written
for it. -/
structure ReadsBack {α : Type} [ToJson α] [OfJson α] (x : α) : Prop where
  sound : IsSound (toJson x)
  given : toJson x ≠ .null
  back : ∀ sorted, ofJson? ((toJson x).respell sorted) = some x

theorem ReadsBack.both {α : Type} [ToJson α] [OfJson α] {x : α} (back : ReadsBack x) :
    ofJson? (toJson x) = some x ∧ (toJson x).value?.bind ofJson? = some x := by
  refine ⟨back.back false, ?_⟩
  rw [value?_of_isSound back.sound]
  exact back.back true

/-- Types with the two laws. -/
class LawfulJson (α : Type) [ToJson α] [OfJson α] [HasFinite α] : Prop where
  readsBack : ∀ {x : α}, IsFinite x → ReadsBack x
  isFinite : ∀ {j : Json} {x : α}, IsPossible j → ofJson? j = some x → IsFinite x

export LawfulJson (readsBack)

theorem readsBack_of_mem {α : Type} [ToJson α] [OfJson α] [HasFinite α] [LawfulJson α]
    {o : Option α} (finite : IsFinite o) : ∀ x ∈ o, ReadsBack x :=
  fun x member => readsBack (finite x member)

/-! ## Simple types -/

instance : LawfulJson Bool where
  readsBack _ := ⟨trivial, nofun, fun sorted => by cases sorted <;> rfl⟩
  isFinite _ _ := trivial

instance : LawfulJson String where
  readsBack _ := ⟨trivial, nofun, fun sorted => by cases sorted <;> rfl⟩
  isFinite _ _ := trivial

instance : LawfulJson Float where
  readsBack {x} finite := by
    have written : toJson x = .num (.real x) := if_pos finite
    refine ⟨isSound_float x, written ▸ nofun, fun sorted => ?_⟩
    rw [written]
    cases sorted <;> rfl
  isFinite {j x} possible read := by
    cases j with
    | num n =>
      cases read
      exact possible.isFinite_toFloat
    | _ => cases read

theorem ReadsBack.of_whole {α : Type} [ToJson α] [OfJson α] {x : α} {n : Nat}
    (written : toJson x = .num (.whole n)) (bound : n < UInt64.size)
    (read : ofJson? (Json.num (.whole n)) = some x) : ReadsBack x := by
  refine ⟨written ▸ isSound_natCast bound, written ▸ nofun, fun sorted => ?_⟩
  rw [written]
  cases sorted <;> exact read

instance : LawfulJson UInt32 where
  readsBack {n} _ := by
    have bound : n.toNat < UInt32.size := n.toNat_lt
    have smaller : UInt32.size ≤ UInt64.size := by decide
    refine .of_whole rfl (bound.trans_le smaller) ?_
    show ((Json.num (.whole n.toNat)).whole? 0 (UInt32.size - 1)).map _ = some n
    rw [whole?_natCast bound]
    simp
  isFinite _ _ := trivial

instance : LawfulJson UInt64 where
  readsBack {n} _ := by
    have bound : n.toNat < UInt64.size := n.toNat_lt
    refine .of_whole rfl bound ?_
    show ((Json.num (.whole n.toNat)).whole? 0 (UInt64.size - 1)).map _ = some n
    rw [whole?_natCast bound]
    simp
  isFinite _ _ := trivial

/-- Types whose alternatives are told apart by their names. -/
class LawfulAlternatives (α : Type) [Alternatives α] : Prop where
  ofName?_name : ∀ a : α, Alternatives.ofName? (Alternatives.name a) = some a

instance {α : Type} [Alternatives α] [LawfulAlternatives α] : LawfulJson α where
  readsBack {a} _ := by
    have named := LawfulAlternatives.ofName?_name a
    exact ⟨trivial, nofun, fun sorted => by cases sorted <;> exact named⟩
  isFinite _ _ := trivial

/-! ## Lists -/

theorem ReadsBack.of_forall {α : Type} [ToJson α] [OfJson α] {xs : List α}
    (each : ∀ x ∈ xs, ReadsBack x) : ReadsBack xs := by
  refine ⟨?_, nofun, fun sorted => ?_⟩
  · refine areSound_iff.mpr fun j member => ?_
    obtain ⟨x, here, rfl⟩ := List.mem_map.mp member
    exact (each x here).sound
  · show ofJson? ((Json.arr (xs.map toJson)).respell sorted) = some xs
    rw [respell_arr]
    show ((xs.map toJson).map (respell sorted)).mapM ofJson? = some xs
    induction xs with
    | nil => rfl
    | cons x xs ih =>
      obtain ⟨first, rest⟩ := List.forall_mem_cons.mp each
      rw [List.map_cons, List.map_cons, List.mapM_cons, first.back sorted, ih rest]
      rfl

theorem mapM_attach {α β : Type} (f : α → Option β) (xs : List α) :
    xs.attach.mapM (fun x => f x.1) = xs.mapM f := by
  conv_rhs => rw [← List.attach_map_subtype_val xs, List.mapM_map]
  rfl

/-- Items are read one by one. -/
theorem map_getElem?_of_mapM {α β : Type} {f : α → Option β} {items : List α} {ys : List β}
    (read : items.mapM f = some ys) (i : Nat) : items[i]?.map f = ys[i]?.map some := by
  induction items generalizing ys i with
  | nil =>
    cases read
    rfl
  | cons x items ih =>
    rw [List.mapM_cons] at read
    obtain ⟨z, here, read⟩ := Option.bind_eq_some_iff.mp read
    obtain ⟨zs, later, read⟩ := Option.bind_eq_some_iff.mp read
    cases read
    cases i with
    | zero => exact congrArg some here
    | succ i => exact ih later i

theorem exists_of_mem_mapM {α β : Type} {f : α → Option β} {items : List α} {ys : List β}
    (read : items.mapM f = some ys) {y : β} (member : y ∈ ys) : ∃ x ∈ items, f x = some y := by
  obtain ⟨i, found⟩ := List.mem_iff_getElem?.mp member
  have image := map_getElem?_of_mapM read i
  rw [found, Option.map_some, Option.map_eq_some_iff] at image
  obtain ⟨x, here, image⟩ := image
  exact ⟨x, List.mem_of_getElem? here, image⟩

/-- What is read for a list is read from the items of an array. -/
theorem exists_item_of_mem {α : Type} [OfJson α] {j : Json} {xs : List α}
    (read : ofJson? j = some xs) {x : α} (member : x ∈ xs) :
    ∃ items, j = .arr items ∧ ∃ item ∈ items, ofJson? item = some x := by
  cases j with
  | arr items => exact ⟨items, rfl, exists_of_mem_mapM read member⟩
  | _ => cases read

instance {α : Type} [ToJson α] [OfJson α] [HasFinite α] [LawfulJson α] : LawfulJson (List α) where
  readsBack finite := .of_forall fun x member => readsBack (finite x member)
  isFinite possible read x member := by
    obtain ⟨items, rfl, item, here, found⟩ := exists_item_of_mem read member
    exact LawfulJson.isFinite (arePossible_iff.mp possible item here) found

/-! ## Records -/

section Records

variable {α : Type} [ToJson α]

/-- The fields of an object, without those that are left out. -/
def writtenFields (contents : List (String × Option Json)) : List (String × Json) :=
  contents.filterMap (fun e => e.2.map (fun j => (e.1, j)))

/-- What is written for a list that may be left out. -/
def listContent? (xs : List α) : Option Json := if xs.isEmpty then none else some (toJson xs)

theorem writtenFields_append (first second : List (String × Option Json)) :
    writtenFields (first ++ second) = writtenFields first ++ writtenFields second :=
  List.filterMap_append

theorem optionalField_eq (name : String) (o : Option α) :
    optionalField name o = writtenFields [(name, o.map toJson)] := by
  cases o <;> rfl

theorem listField_eq (name : String) (xs : List α) :
    listField name xs = writtenFields [(name, listContent? xs)] := by
  cases xs <;> rfl

theorem mem_of_mem_writtenFields {contents : List (String × Option Json)} {f : String × Json}
    (member : f ∈ writtenFields contents) : (f.1, some f.2) ∈ contents := by
  obtain ⟨⟨name, content⟩, here, found⟩ := List.mem_filterMap.mp member
  obtain ⟨j, rfl, rfl⟩ := Option.map_eq_some_iff.mp found
  exact here

theorem nodup_keys_writtenFields {contents : List (String × Option Json)}
    (distinct : (contents.map Prod.fst).Nodup) :
    ((writtenFields contents).map Prod.fst).Nodup := by
  refine distinct.sublist ?_
  clear distinct
  induction contents with
  | nil => exact List.Sublist.slnil
  | cons e contents ih =>
    obtain ⟨name, content⟩ := e
    cases content with
    | none => exact ih.cons name
    | some j => exact ih.cons_cons name

theorem get?_writtenFields {contents : List (String × Option Json)}
    (distinct : (contents.map Prod.fst).Nodup) (name : String) :
    get? (writtenFields contents) name = (contents.lookup name).join := by
  induction contents with
  | nil => rfl
  | cons e contents ih =>
    obtain ⟨key, content⟩ := e
    obtain ⟨absent, rest⟩ := List.nodup_cons.mp distinct
    by_cases here : name = key
    · subst here
      rw [List.lookup_cons_self]
      cases content with
      | none =>
        -- The name is left out here, and no later field has it.
        refine get?_eq_none_of_ne fun f member same => absent ?_
        have there : (f.1, some f.2) ∈ contents := mem_of_mem_writtenFields member
        exact List.mem_map.mpr ⟨_, there, same⟩
      | some j => exact List.lookup_cons_self
    · rw [List.lookup_cons, beq_eq_false_iff_ne.mpr here]
      cases content with
      | none => exact ih rest
      | some j =>
        show get? ((key, j) :: writtenFields contents) name = _
        rw [get?_cons, if_neg here, ih rest]

variable [OfJson α]

theorem isSound_content {x : α} (back : ReadsBack x) : ∀ j ∈ some (toJson x), IsSound j := by
  intro j member
  cases member
  exact back.sound

theorem isSound_optionContent {o : Option α} (back : ∀ x ∈ o, ReadsBack x) :
    ∀ j ∈ o.map toJson, IsSound j := by
  intro j member
  obtain ⟨x, here, rfl⟩ := Option.map_eq_some_iff.mp member
  exact (back x here).sound

theorem isSound_listContent {xs : List α} (back : ReadsBack xs) :
    ∀ j ∈ listContent? xs, IsSound j := by
  cases xs with
  | nil => exact nofun
  | cons x xs => exact isSound_content back

/-- A record is read back if it is read from its fields, in any order and in
either spelling. -/
theorem ReadsBack.of_contents {x : α} (known : List Field) (contents : List (String × Option Json))
    (written : toJson x = .obj (writtenFields contents))
    (names : contents.map Prod.fst = known.map Field.name)
    (plain : ∀ f ∈ known, f.aliases = []) (distinct : (known.map Field.name).Nodup)
    (sound : contents.Forall (fun e => ∀ j ∈ e.2, IsSound j))
    (read : ∀ (sorted : Bool) (fields : List (String × Json)),
      (Json.obj fields).isReadable = true → record? known (.obj fields) = some fields →
      (∀ name, get? fields name = (contents.lookup name).join.map (respell sorted)) →
      ofJson? (.obj fields) = some x) : ReadsBack x := by
  have unique : (contents.map Prod.fst).Nodup := names ▸ distinct
  have whole : IsSound (toJson x) := by
    rw [written]
    rw [List.forall_iff_forall_mem] at sound
    exact haveSound_iff.mpr fun f member => sound _ (mem_of_mem_writtenFields member) f.2 rfl
  refine ⟨whole, written ▸ nofun, fun sorted => ?_⟩
  -- Either spelling is an object with these keys, so that no field is renamed or dropped.
  obtain ⟨spelled, same, keys, own, content⟩ :=
    exists_respell_obj sorted (nodup_keys_writtenFields unique)
  have readable := isReadable_respell sorted whole
  rw [written, same] at readable ⊢
  refine read sorted spelled readable (record?_of_named plain ?_ keys) fun name => ?_
  · intro f member
    obtain ⟨g, there, key⟩ := List.mem_map.mp (own f member)
    exact names ▸ key ▸ List.mem_map_of_mem (mem_of_mem_writtenFields there)
  · rw [content, get?_writtenFields unique]

/-! ## Fields that were written -/

variable {fields : List (String × Json)} {name : String} {sorted : Bool}

theorem required?_eq {x : α} (back : ReadsBack x)
    (found : get? fields name = some ((toJson x).respell sorted)) :
    required? fields name = some x := by
  rw [required?, found, Option.bind_some, back.back]

theorem orElse?_eq {x : α} (back : ReadsBack x)
    (found : get? fields name = some ((toJson x).respell sorted)) (missing : α) :
    orElse? fields name missing = some x := by
  rw [orElse?, found]
  exact back.back sorted

theorem respell_ne_null {j : Json} (given : j ≠ .null) (sorted : Bool) :
    j.respell sorted ≠ .null := by
  cases sorted with
  | false => exact given
  | true =>
    cases j with
    | null => exact absurd rfl given
    | _ => exact nofun

theorem optional?_eq {o : Option α} (back : ∀ x ∈ o, ReadsBack x)
    (found : get? fields name = (o.map toJson).map (respell sorted)) :
    optional? fields name = some o := by
  rw [optional?, orElse?, found]
  cases o with
  | none => rfl
  | some x =>
    have given := respell_ne_null (back x rfl).given sorted
    have read := (back x rfl).back sorted
    show ofJson? ((toJson x).respell sorted) = some (some x)
    -- A missing value would be read from `null`, which is not written for any.
    generalize (toJson x).respell sorted = j at given read
    cases j with
    | null => exact absurd rfl given
    | _ => exact congrArg (Option.map some) read

theorem orElse?_listContent {xs : List α} (back : ReadsBack xs)
    (found : get? fields name = (listContent? xs).map (respell sorted)) :
    orElse? fields name [] = some xs := by
  cases xs with
  | nil =>
    rw [orElse?, found]
    rfl
  | cons x xs => exact orElse?_eq back found []

end Records

/-! ## Fields that were read -/

section Fields

variable {α : Type} [ToJson α] [OfJson α] [HasFinite α] [LawfulJson α]
  {fields : List (String × Json)} {name : String}

theorem isFinite_of_required? (possible : HavePossible fields) {x : α}
    (read : required? fields name = some x) : IsFinite x := by
  obtain ⟨j, found, read⟩ := Option.bind_eq_some_iff.mp read
  exact LawfulJson.isFinite (isPossible_of_get? possible found) read

theorem isFinite_of_orElse? (possible : HavePossible fields) {missing x : α}
    (standard : IsFinite missing) (read : orElse? fields name missing = some x) : IsFinite x := by
  rw [orElse?] at read
  split at read
  · rename_i found
    exact LawfulJson.isFinite (isPossible_of_get? possible found) read
  · cases read
    exact standard

theorem isFinite_of_optional? (possible : HavePossible fields) {o : Option α}
    (read : optional? fields name = some o) : IsFinite o := by
  rw [optional?, orElse?] at read
  split at read
  · rename_i j found
    have part := isPossible_of_get? possible found
    intro x member
    cases member
    cases j with
    | null => cases read
    | _ =>
      obtain ⟨y, here, same⟩ := Option.map_eq_some_iff.mp read
      cases same
      exact LawfulJson.isFinite part here
  · cases read
    exact nofun

end Fields

end DesignTokens
