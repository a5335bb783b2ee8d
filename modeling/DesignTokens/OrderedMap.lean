/-!
# Ordered maps

Stylesheets list their entries in the order in which they came up, so the maps
of this library remember it.  A key that comes up again keeps its place.

Key definitions:

* `OrderedMap` is a list of entries whose keys differ.
* `OrderedMap.insert` replaces a value in its place or adds an entry at the end.
* `OrderedMap.alter` does the same with a value that depends on the one before.
-/

namespace DesignTokens

/-! ## Lists of entries -/

/-- Changes the value of a key in its place, or adds an entry at the end. -/
def alterEntry {κ α : Type} [DecidableEq κ] (key : κ) (change : Option α → α) :
    List (κ × α) → List (κ × α)
  | [] => [(key, change none)]
  | (k, x) :: entries =>
    if k = key then (k, change (some x)) :: entries
    else (k, x) :: alterEntry key change entries

/-- A new key comes after all others, and an old one keeps its place. -/
theorem map_fst_alterEntry {κ α : Type} [DecidableEq κ] (key : κ) (change : Option α → α)
    (entries : List (κ × α)) :
    (alterEntry key change entries).map Prod.fst =
      if key ∈ entries.map Prod.fst then entries.map Prod.fst
      else entries.map Prod.fst ++ [key] := by
  induction entries with
  | nil => simp [alterEntry]
  | cons entry entries ih =>
    obtain ⟨k, x⟩ := entry
    by_cases h : k = key
    · simp [alterEntry, h]
    · have h' : ¬ key = k := fun e => h e.symm
      simp only [alterEntry, if_neg h, List.map_cons, ih, List.mem_cons, h', false_or]
      split <;> simp

/-- Keys stay different. -/
theorem nodup_alterEntry {κ α : Type} [DecidableEq κ] (key : κ) (change : Option α → α)
    {entries : List (κ × α)} (h : (entries.map Prod.fst).Nodup) :
    ((alterEntry key change entries).map Prod.fst).Nodup := by
  rw [map_fst_alterEntry]
  split
  · exact h
  · rename_i new
    rw [List.nodup_append]
    refine ⟨h, by simp, ?_⟩
    intro k mem l here
    rw [List.mem_singleton.mp here]
    exact fun e => new (e ▸ mem)

/-! ## Maps -/

/-- A map that keeps its entries in the order in which their keys came up. -/
structure OrderedMap (κ α : Type) where
  entries : List (κ × α)
  nodup : (entries.map Prod.fst).Nodup
deriving DecidableEq

namespace OrderedMap

variable {κ α : Type}

/-- Maps with the same entries in the same order are equal. -/
@[ext] theorem ext {m n : OrderedMap κ α} (h : m.entries = n.entries) : m = n := by
  cases m
  cases n
  cases h
  rfl

instance [BEq κ] [BEq α] : BEq (OrderedMap κ α) := ⟨fun m n => m.entries == n.entries⟩

/-- The map without entries. -/
def empty : OrderedMap κ α := ⟨[], by simp⟩

instance : Inhabited (OrderedMap κ α) := ⟨empty⟩

/-- The keys in order. -/
def keys (m : OrderedMap κ α) : List κ := m.entries.map Prod.fst

/-- The values in order. -/
def values (m : OrderedMap κ α) : List α := m.entries.map Prod.snd

/-- The number of entries. -/
def size (m : OrderedMap κ α) : Nat := m.entries.length

/-- Whether there are no entries. -/
def isEmpty (m : OrderedMap κ α) : Bool := m.entries.isEmpty

variable [DecidableEq κ]

/-- The value of a key. -/
def get? (m : OrderedMap κ α) (key : κ) : Option α := m.entries.lookup key

/-- Whether there is an entry for a key. -/
def contains (m : OrderedMap κ α) (key : κ) : Bool := (m.get? key).isSome

/-- Changes the value of a key in its place, or adds an entry at the end. -/
def alter (m : OrderedMap κ α) (key : κ) (change : Option α → α) : OrderedMap κ α :=
  ⟨alterEntry key change m.entries, nodup_alterEntry key change m.nodup⟩

/-- Gives a key a value. -/
def insert (m : OrderedMap κ α) (key : κ) (x : α) : OrderedMap κ α := m.alter key (fun _ => x)

/-- The map of a list of entries, of which later ones win. -/
def ofList (entries : List (κ × α)) : OrderedMap κ α :=
  entries.foldl (fun m entry => m.insert entry.1 entry.2) empty

/-! ## Laws -/

/-- Values come back as they were changed, and other keys keep theirs. -/
theorem lookup_alterEntry (key other : κ) (change : Option α → α) (entries : List (κ × α)) :
    (alterEntry key change entries).lookup other =
      if other = key then some (change (entries.lookup key)) else entries.lookup other := by
  induction entries with
  | nil =>
    by_cases h : other = key
    · simp [alterEntry, h]
    · simp [alterEntry, List.lookup_cons, h, beq_eq_false_iff_ne.mpr h]
  | cons entry entries ih =>
    obtain ⟨k, x⟩ := entry
    by_cases h : k = key
    · subst h
      by_cases h' : other = k
      · subst h'
        simp [alterEntry]
      · simp [alterEntry, List.lookup_cons, h', beq_eq_false_iff_ne.mpr h']
    · have h' : ¬ key = k := fun e => h e.symm
      by_cases here : other = k
      · subst here
        simp [alterEntry, h]
      · simp [alterEntry, List.lookup_cons, h, ih, beq_eq_false_iff_ne.mpr here,
          beq_eq_false_iff_ne.mpr h']

/-- What `alter` does to the value of a key. -/
theorem get?_alter (m : OrderedMap κ α) (key other : κ) (change : Option α → α) :
    (m.alter key change).get? other =
      if other = key then some (change (m.get? key)) else m.get? other :=
  lookup_alterEntry key other change m.entries

/-- What `alter` does to the order of keys. -/
theorem keys_alter (m : OrderedMap κ α) (key : κ) (change : Option α → α) :
    (m.alter key change).keys = if key ∈ m.keys then m.keys else m.keys ++ [key] :=
  map_fst_alterEntry key change m.entries

end OrderedMap

end DesignTokens
