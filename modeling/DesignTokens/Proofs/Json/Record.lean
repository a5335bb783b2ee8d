import DesignTokens.Json.Record
import DesignTokens.Proofs.Json.Reading
import DesignTokens.Proofs.OrderedMap
import DesignTokens.TokenSet.Basic

/-!
# Typed round trips

What is written for a value of one of the types of the library is read as the
value, as long as its doubles come through.
-/

namespace DesignTokens

namespace Json

/-- A value that is written as a sound document, in which brackets nest at most so deep. -/
structure Fits {α : Type} [ToJson α] (levels : Nat) (x : α) : Prop where
  sound : IsSound (toJson x)
  shallow : (toJson x).depth ≤ levels

/-- Whether a value comes back from what is written for it. -/
def ComesBack {α : Type} [ToJson α] [OfJson α] (x : α) : Prop := ofJson? (toJson x).reread = some x

/-- The text of a value is read as the value exactly if it comes back. -/
theorem Fits.read_iff {α : Type} [ToJson α] [OfJson α] {levels : Nat} {x : α}
    (fits : Fits levels x) (shallow : levels ≤ depthLimit) :
    (read? (toJson x).compact).bind ofJson? = some x ↔ ComesBack x := by
  rw [read?_compact fits.sound (fits.shallow.trans shallow), Option.bind_some, ComesBack]

theorem Fits.read_pretty_iff {α : Type} [ToJson α] [OfJson α] {levels : Nat} {x : α}
    (fits : Fits levels x) (shallow : levels ≤ depthLimit) :
    (read? (toJson x).pretty).bind ofJson? = some x ↔ ComesBack x := by
  rw [read?_pretty fits.sound (fits.shallow.trans shallow), Option.bind_some, ComesBack]

/-! ## Simple types -/

theorem fits_string (s : String) : Fits 0 s := ⟨trivial, le_rfl⟩

theorem comesBack_string (s : String) : ComesBack s := rfl

theorem whole?_natCast {n size : Nat} (bound : n < size) :
    (Json.num (.whole n)).whole? 0 (size - 1) = some (n : Int) := by
  have inside : (decide (0 ≤ (n : Int)) && decide ((n : Int) ≤ size - 1)) = true := by
    simp only [Bool.and_eq_true, decide_eq_true_eq]
    omega
  rw [whole?, if_pos inside]

theorem isSound_natCast {n : Nat} (bound : n < UInt64.size) : IsSound (.num (.whole n)) := by
  show leastWhole ≤ (n : Int) ∧ (n : Int) ≤ greatestWhole
  have size : UInt64.size = 18446744073709551616 := rfl
  rw [leastWhole, greatestWhole]
  omega

theorem fits_uint16 (n : UInt16) : Fits 0 n where
  sound := by
    have bound : n.toNat < UInt16.size := n.toNat_lt
    have smaller : UInt16.size ≤ UInt64.size := by decide
    exact isSound_natCast (bound.trans_le smaller)
  shallow := le_rfl

theorem fits_int64 (n : Int64) : Fits 0 n where
  sound := by
    have low := Int64.le_toInt n
    have high := Int64.toInt_lt n
    show leastWhole ≤ n.toInt ∧ n.toInt ≤ greatestWhole
    rw [leastWhole, greatestWhole]
    omega
  shallow := le_rfl

/-- A whole number of 64 bits comes back if its type has it. -/
theorem comesBack_of_whole {α : Type} [ToJson α] [OfJson α] {x : α} {n : Int}
    (written : toJson x = .num (.whole n)) (sound : IsSound (toJson x))
    (back : ofJson? (toJson x) = some x) : ComesBack x := by
  rw [written] at sound
  have lossless : (toJson x).IsLossless := by
    rw [written]
    exact List.forall_mem_singleton.mpr (Number.isLossless_whole sound.1 sound.2)
  rw [ComesBack, reread_of_isLossless lossless]
  exact back

theorem comesBack_uint16 (n : UInt16) : ComesBack n := by
  refine comesBack_of_whole rfl (fits_uint16 n).sound ?_
  show ((Json.num (.whole n.toNat)).whole? 0 (UInt16.size - 1)).map _ = some n
  rw [whole?_natCast n.toNat_lt]
  simp

theorem comesBack_int64 (n : Int64) : ComesBack n := by
  refine comesBack_of_whole rfl (fits_int64 n).sound ?_
  have low := Int64.le_toInt n
  have high := Int64.toInt_lt n
  show (whole? Int64.minValue.toInt Int64.maxValue.toInt (.num (.whole n.toInt))).map
    Int64.ofInt = some n
  rw [whole?, if_pos]
  · simp
  · simp only [Bool.and_eq_true, decide_eq_true_eq]
    have least : Int64.minValue.toInt = -9223372036854775808 := by decide
    have greatest : Int64.maxValue.toInt = 9223372036854775807 := by decide
    omega

/-- Doubles are written as something that can be read, if only as `null`. -/
theorem isSound_float (x : Float) : IsSound (toJson x) := by
  show IsSound (if Decimal.isFinite x then .num (.real x) else .null)
  split
  · rename_i finite
    exact finite
  · trivial

theorem fits_float (x : Float) : Fits 0 x := by
  refine ⟨isSound_float x, ?_⟩
  show (if Decimal.isFinite x then Json.num (.real x) else .null).depth ≤ 0
  split <;> exact le_rfl

/-- A double comes back if its number does.  What is not finite is written as `null`, which is not
read as a double. -/
theorem comesBack_float_iff {x : Float} : ComesBack x ↔ (Number.real x).IsLossless := by
  by_cases finite : Decimal.isFinite x = true
  · have written : toJson x = .num (.real x) := if_pos finite
    obtain ⟨l, literal, broken, _⟩ := Number.exists_literal_real finite
    rw [ComesBack, written, reread, Number.IsLossless, Number.reread?, literal, Option.bind_some,
      Number.ofLiteral?_of_not_isWhole broken]
    cases l.scaledFloat?.filter Decimal.isFinite with
    | none =>
      constructor
      · intro back
        cases back
      · intro back
        cases back
    | some y =>
      constructor
      · intro back
        cases back
        rfl
      · intro back
        cases back
        rfl
  · have written : toJson x = .null := if_neg finite
    rw [ComesBack, written]
    constructor
    · intro back
      cases back
    · intro lossless
      exact absurd lossless.isFinite finite

/-! ## Lists -/

theorem areSound_iff {items : List Json} : AreSound items ↔ ∀ j ∈ items, IsSound j := by
  induction items with
  | nil => simp [AreSound]
  | cons j js ih => simp [AreSound, ih]

theorem haveSound_iff {fields : List (String × Json)} :
    HaveSound fields ↔ ∀ f ∈ fields, IsSound f.2 := by
  induction fields with
  | nil => simp [HaveSound]
  | cons f fs ih => simp [HaveSound, ih]

theorem itemDepth_le_iff {items : List Json} {levels : Nat} :
    itemDepth items ≤ levels ↔ ∀ j ∈ items, j.depth ≤ levels := by
  induction items with
  | nil => simp [itemDepth]
  | cons j js ih => simp [itemDepth, ih]

theorem fieldDepth_le_iff {fields : List (String × Json)} {levels : Nat} :
    fieldDepth fields ≤ levels ↔ ∀ f ∈ fields, f.2.depth ≤ levels := by
  induction fields with
  | nil => simp [fieldDepth]
  | cons f fs ih => simp [fieldDepth, ih]

section Lists

variable {α : Type} [ToJson α] {levels : Nat} {xs : List α}

theorem fits_list (each : ∀ x ∈ xs, Fits levels x) : Fits (levels + 1) xs where
  sound := by
    show AreSound (xs.map toJson)
    rw [areSound_iff]
    intro j member
    obtain ⟨x, here, rfl⟩ := List.mem_map.mp member
    exact (each x here).sound
  shallow := by
    show itemDepth (xs.map toJson) + 1 ≤ levels + 1
    rw [Nat.add_le_add_iff_right, itemDepth_le_iff]
    intro j member
    obtain ⟨x, here, rfl⟩ := List.mem_map.mp member
    exact (each x here).shallow

theorem comesBack_list_iff [OfJson α] : ComesBack xs ↔ ∀ x ∈ xs, ComesBack x := by
  show (rereadItems (xs.map toJson)).mapM ofJson? = some xs ↔ _
  induction xs with
  | nil => exact ⟨fun _ _ member => absurd member List.not_mem_nil, fun _ => rfl⟩
  | cons x xs ih =>
    rw [List.forall_mem_cons, ← ih, List.map_cons, rereadItems, List.mapM_cons]
    simp [Option.bind_eq_some_iff, ComesBack]

end Lists

/-! ## Records -/

/-- A name is known for itself only. -/
theorem eq_of_fieldName? {known : List Field} (plain : ∀ f ∈ known, f.aliases = [])
    {key name : String} (found : fieldName? known key = some name) : name = key := by
  obtain ⟨f, here, rfl⟩ := Option.map_eq_some_iff.mp found
  have matched := List.find?_some here
  rw [plain f (List.mem_of_find?_eq_some here)] at matched
  simpa only [List.contains_nil, Bool.or_false, beq_iff_eq] using matched

theorem fieldName?_of_mem {known : List Field} (plain : ∀ f ∈ known, f.aliases = [])
    {name : String} (member : name ∈ known.map Field.name) :
    fieldName? known name = some name := by
  obtain ⟨f, here, rfl⟩ := List.mem_map.mp member
  cases found : fieldName? known f.name with
  | none =>
    rw [fieldName?, Option.map_eq_none_iff] at found
    have other := List.find?_eq_none.mp found f here
    simp at other
  | some other => rw [eq_of_fieldName? plain found]

/-- What an object has under a known name is what the record has under it. -/
theorem get?_knownFields {known : List Field} (plain : ∀ f ∈ known, f.aliases = []) {name : String}
    (member : name ∈ known.map Field.name) (fields : List (String × Json)) :
    get? (knownFields known fields) name = get? fields name := by
  induction fields with
  | nil => rfl
  | cons f fields ih =>
    obtain ⟨key, j⟩ := f
    unfold get? at ih ⊢
    rw [knownFields, List.lookup_cons]
    cases found : fieldName? known key with
    | some other =>
      cases eq_of_fieldName? plain found
      dsimp only
      rw [List.lookup_cons, ih]
    | none =>
      have differ : (name == key) = false := by
        rw [beq_eq_false_iff_ne]
        rintro rfl
        rw [fieldName?_of_mem plain member] at found
        cases found
      rw [differ]
      exact ih

theorem isUnambiguous_of_nodup {fields : List (String × Json)}
    (distinct : (fields.map Prod.fst).Nodup) : isUnambiguous fields = true := by
  induction fields with
  | nil => rfl
  | cons f fs ih =>
    obtain ⟨key, j⟩ := f
    obtain ⟨absent, rest⟩ := List.nodup_cons.mp distinct
    rw [isUnambiguous, ih rest, Bool.and_true, List.all_eq_true]
    intro g member
    rw [bne_iff_ne]
    exact fun same => absent (List.mem_map.mpr ⟨g, member, same⟩)

/-- An object with some fields of a record under their own names, in any order,
is read as these fields. -/
theorem record?_of_named {known : List Field} {fields : List (String × Json)}
    (plain : ∀ f ∈ known, f.aliases = []) (named : ∀ f ∈ fields, f.1 ∈ known.map Field.name)
    (distinct : (fields.map Prod.fst).Nodup) : record? known (.obj fields) = some fields := by
  -- Every field is known under its own name, so none is renamed or dropped.
  have kept : knownFields known fields = fields := by
    clear distinct
    induction fields with
    | nil => rfl
    | cons f fs ih =>
      obtain ⟨first, rest⟩ := List.forall_mem_cons.mp named
      rw [knownFields, fieldName?_of_mem plain first, ih rest]
  rw [record?, kept, isUnambiguous_of_nodup distinct]
  rfl

/-- An object with the fields of a record under their own names is read as the
record. -/
theorem record?_own {known : List Field} {fields : List (String × Json)}
    (own : fields.map Prod.fst = known.map Field.name) (plain : ∀ f ∈ known, f.aliases = [])
    (distinct : (known.map Field.name).Nodup) : record? known (.obj fields) = some fields :=
  record?_of_named plain (fun _ member => own ▸ List.mem_map_of_mem member) (own ▸ distinct)

end Json

/-! ## Maps -/

namespace Json

theorem fits_map {α : Type} [ToJson α] {levels : Nat} {m : OrderedMap String α}
    (each : ∀ x ∈ m.values, Fits levels x) : Fits (levels + 1) m where
  sound := by
    show HaveSound (m.entries.map (fun entry => (entry.1, toJson entry.2)))
    rw [haveSound_iff]
    intro f member
    obtain ⟨entry, here, rfl⟩ := List.mem_map.mp member
    exact (each entry.2 (List.mem_map_of_mem here)).sound
  shallow := by
    show fieldDepth (m.entries.map (fun entry => (entry.1, toJson entry.2))) + 1 ≤ levels + 1
    rw [Nat.add_le_add_iff_right, fieldDepth_le_iff]
    intro f member
    obtain ⟨entry, here, rfl⟩ := List.mem_map.mp member
    exact (each entry.2 (List.mem_map_of_mem here)).shallow

section Entries

variable {α : Type} [OfJson α]

theorem map_fst_of_entries? : ∀ {fields : List (String × Json)} {entries : List (String × α)},
    entries? fields = some entries → entries.map Prod.fst = fields.map Prod.fst
  | [], _, read => by
    cases read
    rfl
  | (key, j) :: fields, _, read => by
    obtain ⟨x, _, read⟩ := Option.bind_eq_some_iff.mp read
    obtain ⟨entries, later, read⟩ := Option.bind_eq_some_iff.mp read
    cases read
    rw [List.map_cons, List.map_cons, map_fst_of_entries? later]

theorem entries?_reread_iff [ToJson α] {entries : List (String × α)} :
    entries? (rereadFields (entries.map fun e => (e.1, toJson e.2))) = some entries
      ↔ ∀ e ∈ entries, ComesBack e.2 := by
  induction entries with
  | nil => exact ⟨fun _ _ member => absurd member List.not_mem_nil, fun _ => rfl⟩
  | cons e es ih =>
    obtain ⟨key, x⟩ := e
    rw [List.forall_mem_cons, ← ih, List.map_cons, rereadFields, entries?]
    simp [Option.bind_eq_some_iff, ComesBack]

end Entries

/-- A map comes back if its values do: its keys are kept, and so is their order. -/
theorem comesBack_map_iff {α : Type} [ToJson α] [OfJson α] {m : OrderedMap String α} :
    ComesBack m ↔ ∀ x ∈ m.values, ComesBack x := by
  have entries : (∀ x ∈ m.values, ComesBack x) ↔ ∀ e ∈ m.entries, ComesBack e.2 :=
    List.forall_mem_map
  show (entries? (rereadFields (m.entries.map fun e => (e.1, toJson e.2)))).map OrderedMap.ofList
    = some m ↔ _
  rw [entries, ← entries?_reread_iff]
  constructor
  · intro back
    obtain ⟨es, read, same⟩ := Option.map_eq_some_iff.mp back
    have keys : es.map Prod.fst = m.keys := by
      rw [map_fst_of_entries? read, rereadFields_eq_map, List.map_map, List.map_map]
      rfl
    have apart : (es.map Prod.fst).Nodup := keys ▸ m.nodup
    rw [read, ← same, OrderedMap.entries_ofList apart]
  · intro back
    rw [back, Option.map_some, OrderedMap.ofList_entries]

end Json

end DesignTokens
