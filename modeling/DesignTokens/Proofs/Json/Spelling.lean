import DesignTokens.Proofs.Json.Value

/-!
# Spellings of a document

What is written is read as it stands or after its keys have been sorted.  Either
way the same keys lead to the same contents, up to the order of keys inside
them.
-/

namespace DesignTokens.Json

/-! ## Readable parts -/

mutual

theorem isReadable_of_isSound : ∀ {j : Json}, IsSound j → j.isReadable = true
  | .null, _ => rfl
  | .bool _, _ => rfl
  | .num _, _ => rfl
  | .str _, _ => rfl
  | .arr _, sound => areReadable_of_areSound sound
  | .obj _, sound => haveReadable_of_haveSound sound

theorem areReadable_of_areSound : ∀ {items : List Json}, AreSound items →
    areReadable items = true
  | [], _ => rfl
  | _ :: _, ⟨first, rest⟩ => by
    rw [areReadable, isReadable_of_isSound first, areReadable_of_areSound rest]
    rfl

theorem haveReadable_of_haveSound : ∀ {fields : List (String × Json)}, HaveSound fields →
    haveReadable fields = true
  | [], _ => rfl
  | _ :: _, ⟨first, rest⟩ => by
    rw [haveReadable, isReadable_of_isSound first, haveReadable_of_haveSound rest]
    rfl

end

mutual

theorem isReadable_of_isValue : ∀ {j : Json}, IsValue j → j.isReadable = true
  | .null, _ => rfl
  | .bool _, _ => rfl
  | .num _, _ => rfl
  | .str _, _ => rfl
  | .arr _, values => areReadable_of_areValues values
  | .obj _, ⟨_, values⟩ => haveReadable_of_haveValues values

theorem areReadable_of_areValues : ∀ {items : List Json}, AreValues items →
    areReadable items = true
  | [], _ => rfl
  | _ :: _, ⟨first, rest⟩ => by
    rw [areReadable, isReadable_of_isValue first, areReadable_of_areValues rest]
    rfl

theorem haveReadable_of_haveValues : ∀ {fields : List (String × Json)}, HaveValues fields →
    haveReadable fields = true
  | [], _ => rfl
  | _ :: _, ⟨first, rest⟩ => by
    rw [haveReadable, isReadable_of_isValue first, haveReadable_of_haveValues rest]
    rfl

end

/-! ## Sorting fields -/

theorem mem_of_mem_sortFields {fields : List (String × Json)} {f : String × Json}
    (member : f ∈ sortFields fields) : f ∈ fields := by
  have keeps : ∀ sorted : List (String × Json),
      f ∈ fields.foldl (fun sorted g => insertSorted g.1 g.2 sorted) sorted →
      f ∈ sorted ∨ f ∈ fields := by
    clear member
    induction fields with
    | nil => exact fun _ member => .inl member
    | cons g fields ih =>
      intro sorted member
      rcases ih (insertSorted g.1 g.2 sorted) member with before | later
      · rcases mem_insertSorted before with rfl | given
        · exact .inr List.mem_cons_self
        · exact .inl given
      · exact .inr (List.mem_cons_of_mem g later)
  rcases keeps [] member with nowhere | given
  · cases nowhere
  · exact given

theorem get?_sortFields {fields : List (String × Json)} (distinct : (fields.map Prod.fst).Nodup)
    (key : String) : get? (sortFields fields) key = get? fields key := by
  -- A field that is still to come is not among those that are sorted already.
  have keeps : ∀ sorted : List (String × Json),
      get? (fields.foldl (fun sorted g => insertSorted g.1 g.2 sorted) sorted) key
        = (get? fields key).or (get? sorted key) := by
    induction fields with
    | nil => exact fun _ => rfl
    | cons f fields ih =>
      intro sorted
      obtain ⟨absent, rest⟩ := List.nodup_cons.mp distinct
      rw [List.foldl_cons, ih rest, get?_insertSorted, get?_cons]
      by_cases here : key = f.1
      · have nowhere : get? fields key = none := get?_eq_none_of_ne fun g member same =>
          absent (List.mem_map.mpr ⟨g, member, same.trans here⟩)
        rw [if_pos here, if_pos here, nowhere]
        rfl
      · rw [if_neg here, if_neg here]
  rw [sortFields, keeps, get?_nil, Option.or_none]

theorem insertSorted_of_highest {fields : List (String × Json)} {key : String} (x : Json)
    (highest : ∀ f ∈ fields, f.1 < key) : insertSorted key x fields = fields ++ [(key, x)] := by
  induction fields with
  | nil => rfl
  | cons f fields ih =>
    obtain ⟨first, rest⟩ := List.forall_mem_cons.mp highest
    have apart : key ≠ f.1 := fun same => String.lt_irrefl _ (same ▸ first)
    rw [insertSorted, if_neg (String.lt_asymm first), if_neg apart, ih rest, List.cons_append]

theorem sortFields_of_sorted {fields : List (String × Json)} (sorted : Sorted fields) :
    sortFields fields = fields := by
  have keeps : ∀ before : List (String × Json), Sorted (before ++ fields) →
      fields.foldl (fun sorted g => insertSorted g.1 g.2 sorted) before = before ++ fields := by
    induction fields with
    | nil => exact fun before _ => (List.append_nil before).symm
    | cons f fields ih =>
      intro before whole
      have highest : ∀ g ∈ before, g.1 < f.1 := fun g member =>
        (List.pairwise_append.mp whole).2.2 g member f List.mem_cons_self
      rw [List.append_cons] at whole ⊢
      rw [List.foldl_cons, insertSorted_of_highest f.2 highest]
      exact ih (sorted_cons.mp sorted).2 _ whole
  exact keeps [] sorted

/-! ## Values have sorted keys already -/

mutual

theorem canonical_of_isValue : ∀ {j : Json}, IsValue j → j.canonical = j
  | .null, _ => rfl
  | .bool _, _ => rfl
  | .num _, _ => rfl
  | .str _, _ => rfl
  | .arr _, values => by rw [canonical, canonicalItems_of_areValues values]
  | .obj _, ⟨sorted, values⟩ => by
    rw [canonical, canonicalFields_of_haveValues values, sortFields_of_sorted sorted]

theorem canonicalItems_of_areValues : ∀ {items : List Json}, AreValues items →
    canonicalItems items = items
  | [], _ => rfl
  | _ :: _, ⟨first, rest⟩ => by
    rw [canonicalItems, canonical_of_isValue first, canonicalItems_of_areValues rest]

theorem canonicalFields_of_haveValues : ∀ {fields : List (String × Json)}, HaveValues fields →
    canonicalFields fields = fields
  | [], _ => rfl
  | _ :: _, ⟨first, rest⟩ => by
    rw [canonicalFields, canonical_of_isValue first, canonicalFields_of_haveValues rest]

end

theorem canonical_canonical {j : Json} (sound : IsSound j) :
    j.canonical.canonical = j.canonical := canonical_of_isValue (isValue_canonical sound)

/-! ## Two spellings -/

/-- A document as it is, or with its keys sorted. -/
def respell (sorted : Bool) (j : Json) : Json := if sorted then j.canonical else j

theorem canonicalItems_eq_map (items : List Json) : canonicalItems items = items.map canonical := by
  induction items with
  | nil => rfl
  | cons j items ih => rw [canonicalItems, ih, List.map_cons]

theorem canonicalFields_eq_map (fields : List (String × Json)) :
    canonicalFields fields = fields.map (fun f => (f.1, f.2.canonical)) := by
  induction fields with
  | nil => rfl
  | cons f fields ih => rw [canonicalFields, ih, List.map_cons]

theorem get?_map {α : Type} (g : α → Json) (entries : List (String × α)) (key : String) :
    get? (entries.map (fun entry => (entry.1, g entry.2))) key = (entries.lookup key).map g := by
  induction entries with
  | nil => rfl
  | cons entry entries ih =>
    rw [List.map_cons, get?_cons, ih]
    by_cases here : key = entry.1
    · rw [if_pos here, here, List.lookup_cons_self]
      rfl
    · rw [if_neg here, List.lookup_cons, beq_eq_false_iff_ne.mpr here]

/-- Sorting the keys of an object with distinct keys does not change what they lead to. -/
theorem get?_canonical {fields : List (String × Json)} (distinct : (fields.map Prod.fst).Nodup)
    (key : String) :
    get? (sortFields (canonicalFields fields)) key = (get? fields key).map canonical := by
  rw [canonicalFields_eq_map, get?_sortFields (by rwa [List.map_map]), get?_map]
  rfl

theorem isReadable_respell (sorted : Bool) {j : Json} (sound : IsSound j) :
    (j.respell sorted).isReadable = true := by
  cases sorted with
  | false => exact isReadable_of_isSound sound
  | true => exact isReadable_of_isValue (isValue_canonical sound)

theorem value?_of_isSound {j : Json} (sound : IsSound j) : j.value? = some j.canonical :=
  if_pos (isReadable_of_isSound sound)

/-- Whatever the spelling is, the value is the same. -/
theorem value?_respell (sorted : Bool) {j : Json} (sound : IsSound j) :
    (j.respell sorted).value? = some j.canonical := by
  rw [value?, if_pos (isReadable_respell sorted sound)]
  cases sorted with
  | false => rfl
  | true => exact congrArg some (canonical_canonical sound)

theorem respell_arr (sorted : Bool) (items : List Json) :
    (Json.arr items).respell sorted = .arr (items.map (respell sorted)) := by
  cases sorted with
  | false => exact congrArg Json.arr (List.map_id items).symm
  | true =>
    show Json.arr (canonicalItems items) = _
    rw [canonicalItems_eq_map]
    rfl

/-- An object with distinct keys is spelled as an object with the same keys,
each of them leading to the spelling of its content. -/
theorem exists_respell_obj (sorted : Bool) {fields : List (String × Json)}
    (distinct : (fields.map Prod.fst).Nodup) :
    ∃ spelled, (Json.obj fields).respell sorted = .obj spelled ∧
      (spelled.map Prod.fst).Nodup ∧ (∀ f ∈ spelled, f.1 ∈ fields.map Prod.fst) ∧
      ∀ key, get? spelled key = (get? fields key).map (respell sorted) := by
  cases sorted with
  | false =>
    refine ⟨fields, rfl, distinct, fun f member => List.mem_map_of_mem member, fun key => ?_⟩
    exact (congrFun Option.map_id _).symm
  | true =>
    have keys : (canonicalFields fields).map Prod.fst = fields.map Prod.fst := by
      rw [canonicalFields_eq_map, List.map_map]
      rfl
    refine ⟨sortFields (canonicalFields fields), rfl, ?_, ?_, ?_⟩
    · refine List.pairwise_map.mpr ((sorted_sortFields _).imp ?_)
      exact fun {f g} before same => String.lt_irrefl g.1 (same ▸ before)
    · intro f member
      exact keys ▸ List.mem_map_of_mem (mem_of_mem_sortFields member)
    · exact get?_canonical distinct

end DesignTokens.Json
