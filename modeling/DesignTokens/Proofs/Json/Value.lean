import DesignTokens.Json.Basic
import DesignTokens.Proofs.Decimal.Bits

/-!
# JSON values

A value is a document without accidents: every object has its keys sorted,
each of them once, and every part can be read.  Objects of this kind are finite
maps, so two of them are equal once their lookups are.
-/

namespace DesignTokens.Json

/-! ## Sorted fields -/

/-- Keys that rise from field to field. -/
def Sorted (fields : List (String × Json)) : Prop := fields.Pairwise (fun f g => f.1 < g.1)

theorem sorted_nil : Sorted [] := List.Pairwise.nil

theorem sorted_cons {f : String × Json} {fields : List (String × Json)} :
    Sorted (f :: fields) ↔ (∀ g ∈ fields, f.1 < g.1) ∧ Sorted fields := List.pairwise_cons

theorem get?_nil (key : String) : get? [] key = none := rfl

theorem get?_cons (f : String × Json) (fields : List (String × Json)) (key : String) :
    get? (f :: fields) key = if key = f.1 then some f.2 else get? fields key := by
  obtain ⟨k, x⟩ := f
  by_cases here : key = k
  · subst here
    rw [get?, List.lookup_cons_self, if_pos rfl]
  · rw [get?, List.lookup_cons, beq_eq_false_iff_ne.mpr here, if_neg here]
    rfl

theorem mem_of_get?_eq_some {fields : List (String × Json)} {key : String} {x : Json}
    (found : get? fields key = some x) : (key, x) ∈ fields := by
  obtain ⟨before, after, parts, _⟩ := List.lookup_eq_some_iff.mp found
  rw [parts]
  simp

theorem get?_eq_none_of_ne {fields : List (String × Json)} {key : String}
    (absent : ∀ f ∈ fields, f.1 ≠ key) : get? fields key = none := by
  cases found : get? fields key with
  | none => rfl
  | some x => exact absurd rfl (absent _ (mem_of_get?_eq_some found))

theorem get?_eq_some_of_mem {fields : List (String × Json)} (sorted : Sorted fields)
    {f : String × Json} (member : f ∈ fields) : get? fields f.1 = some f.2 := by
  induction fields with
  | nil => cases member
  | cons g fields ih =>
    obtain ⟨first, rest⟩ := sorted_cons.mp sorted
    rw [get?_cons]
    rcases List.mem_cons.mp member with rfl | later
    · rw [if_pos rfl]
    · have apart : f.1 ≠ g.1 := fun e => String.lt_irrefl _ (e ▸ first f later)
      rw [if_neg apart]
      exact ih rest later

theorem ne_of_lowest {fields : List (String × Json)} {key : String}
    (lowest : ∀ f ∈ fields, key < f.1) : ∀ f ∈ fields, f.1 ≠ key :=
  fun f member e => String.lt_irrefl _ (e ▸ lowest f member)

/-- A key below the first one is not there. -/
theorem get?_eq_none_of_lt {fields : List (String × Json)} {key : String}
    (below : ∀ f ∈ fields, key < f.1) : get? fields key = none :=
  get?_eq_none_of_ne (ne_of_lowest below)

/-- A key that is there is at least the first one. -/
theorem le_of_get?_cons {f : String × Json} {fields : List (String × Json)} {key : String}
    (lowest : ∀ g ∈ fields, f.1 < g.1) (given : get? (f :: fields) key ≠ none) : f.1 ≤ key := by
  intro before
  refine given (get?_eq_none_of_lt fun g member => ?_)
  rcases List.mem_cons.mp member with rfl | later
  · exact before
  · exact String.lt_trans before (lowest g later)

theorem Sorted.nodup_keys {fields : List (String × Json)} (sorted : Sorted fields) :
    (fields.map Prod.fst).Nodup :=
  List.pairwise_map.mpr (List.Pairwise.imp String.ne_of_lt sorted)

/-! ## Changing a field -/

theorem get?_insertSorted (key other : String) (x : Json) (fields : List (String × Json)) :
    get? (insertSorted key x fields) other
      = if other = key then some x else get? fields other := by
  induction fields with
  | nil => rw [insertSorted, get?_cons]
  | cons f fields ih =>
    obtain ⟨k, y⟩ := f
    rw [insertSorted]
    split
    · rw [get?_cons]
    · split
      · rename_i here
        subst here
        rw [get?_cons, get?_cons]
        split <;> rfl
      · rename_i apart
        rw [get?_cons, get?_cons, ih]
        split
        · rename_i here
          rw [if_neg (fun e => apart (e.symm.trans here))]
        · rfl

theorem mem_insertSorted {key : String} {x : Json} {fields : List (String × Json)}
    {f : String × Json} (member : f ∈ insertSorted key x fields) :
    f = (key, x) ∨ f ∈ fields := by
  induction fields with
  | nil => exact .inl (List.mem_singleton.mp member)
  | cons g fields ih =>
    obtain ⟨k, y⟩ := g
    rw [insertSorted] at member
    split at member
    · exact List.mem_cons.mp member
    · split at member
      · exact (List.mem_cons.mp member).imp_right (List.mem_cons_of_mem _)
      · rcases List.mem_cons.mp member with rfl | later
        · exact .inr List.mem_cons_self
        · exact (ih later).imp_right (List.mem_cons_of_mem _)

theorem sorted_insertSorted (key : String) (x : Json) {fields : List (String × Json)}
    (sorted : Sorted fields) : Sorted (insertSorted key x fields) := by
  induction fields with
  | nil => exact List.pairwise_singleton _ _
  | cons f fields ih =>
    obtain ⟨k, y⟩ := f
    obtain ⟨first, rest⟩ := sorted_cons.mp sorted
    rw [insertSorted]
    split
    · rename_i before
      refine sorted_cons.mpr ⟨?_, sorted⟩
      intro g member
      rcases List.mem_cons.mp member with rfl | later
      · exact before
      · exact String.lt_trans before (first g later)
    · rename_i notBefore
      split
      · rename_i here
        subst here
        exact sorted_cons.mpr ⟨first, rest⟩
      · rename_i apart
        refine sorted_cons.mpr ⟨?_, ih rest⟩
        intro g member
        rcases mem_insertSorted member with rfl | later
        · exact Std.not_le.mp fun le => apart (String.le_antisymm notBefore le).symm
        · exact first g later

theorem get?_filter_ne (key other : String) (fields : List (String × Json)) :
    get? (fields.filter (fun f => f.1 != key)) other
      = if other = key then none else get? fields other := by
  induction fields with
  | nil => rw [List.filter_nil, get?_nil, ite_self]
  | cons f fields ih =>
    by_cases here : f.1 = key
    · rw [List.filter_cons_of_neg (by simp [here]), ih, get?_cons, here]
      split <;> rfl
    · rw [List.filter_cons_of_pos (by simp [here]), get?_cons, get?_cons, ih]
      split
      · rename_i e
        rw [if_neg (e ▸ here)]
      · rfl

theorem sorted_filter (keep : String × Json → Bool) {fields : List (String × Json)}
    (sorted : Sorted fields) : Sorted (fields.filter keep) := List.Pairwise.filter keep sorted

theorem sorted_sortFields (fields : List (String × Json)) : Sorted (sortFields fields) := by
  have keeps : ∀ sorted : List (String × Json), Sorted sorted →
      Sorted (fields.foldl (fun sorted f => insertSorted f.1 f.2 sorted) sorted) := by
    induction fields with
    | nil => exact fun _ given => given
    | cons f fields ih => exact fun _ given => ih _ (sorted_insertSorted f.1 f.2 given)
  exact keeps [] sorted_nil

/-! ## Values -/

mutual

/-- Whether every part of a document can be written and read: its whole numbers
fit into 64 bits, and its doubles are finite. -/
def IsSound : Json → Prop
  | .num (.whole n) => leastWhole ≤ n ∧ n ≤ greatestWhole
  | .num (.real x) => Decimal.isFinite x = true
  | .arr items => AreSound items
  | .obj fields => HaveSound fields
  | .unreadable => False
  | _ => True

/-- Whether all items of an array are sound. -/
def AreSound : List Json → Prop
  | [] => True
  | j :: js => IsSound j ∧ AreSound js

/-- Whether all fields of an object are sound. -/
def HaveSound : List (String × Json) → Prop
  | [] => True
  | (_, j) :: fs => IsSound j ∧ HaveSound fs

end

mutual

/-- Whether a document is a value: sound, and with the keys of all its objects
sorted, each there once. -/
def IsValue : Json → Prop
  | .num (.real x) => Decimal.isFinite x = true
  | .arr items => AreValues items
  | .obj fields => Sorted fields ∧ HaveValues fields
  | .unreadable => False
  | _ => True

/-- Whether all items of an array are values. -/
def AreValues : List Json → Prop
  | [] => True
  | j :: js => IsValue j ∧ AreValues js

/-- Whether all fields of an object are values. -/
def HaveValues : List (String × Json) → Prop
  | [] => True
  | (_, j) :: fs => IsValue j ∧ HaveValues fs

end

theorem haveValues_iff {fields : List (String × Json)} :
    HaveValues fields ↔ ∀ f ∈ fields, IsValue f.2 := by
  induction fields with
  | nil => simp [HaveValues]
  | cons f fields ih => simp [HaveValues, ih]

theorem isValue_of_get? {fields : List (String × Json)} (values : HaveValues fields)
    {key : String} {x : Json} (found : get? fields key = some x) : IsValue x :=
  haveValues_iff.mp values _ (mem_of_get?_eq_some found)

/-! ## Equality -/

mutual

/-- A value is equal to itself. -/
theorem same_self : ∀ {j : Json}, IsValue j → j.same j = true
  | .null, _ => rfl
  | .bool b, _ => beq_self_eq_true b
  | .num (.whole n), _ => beq_self_eq_true n
  | .num (.real _), finite => Decimal.beq_self_of_isFinite finite
  | .str s, _ => beq_self_eq_true s
  | .arr _, values => sameItems_self values
  | .obj _, ⟨_, values⟩ => sameFields_self values

theorem sameItems_self : ∀ {items : List Json}, AreValues items → sameItems items items = true
  | [], _ => rfl
  | j :: js, ⟨first, rest⟩ => by
    rw [sameItems, same_self first, sameItems_self rest]
    rfl

theorem sameFields_self : ∀ {fields : List (String × Json)}, HaveValues fields →
    sameFields fields fields = true
  | [], _ => rfl
  | (k, j) :: fs, ⟨first, rest⟩ => by
    rw [sameFields, same_self first, sameFields_self rest, beq_self_eq_true]
    rfl

end

theorem Number.same_comm (m n : Number) : m.same n = n.same m := by
  cases m with
  | whole m =>
    cases n with
    | whole n => exact Bool.beq_comm
    | real y => rfl
  | real x =>
    cases n with
    | whole n => rfl
    | real y => exact Decimal.beq_comm x y

mutual

theorem same_comm : ∀ i j : Json, i.same j = j.same i
  | .null, j => by cases j <;> rfl
  | .bool a, j => by
    cases j with
    | bool b => exact Bool.beq_comm
    | _ => rfl
  | .num m, j => by
    cases j with
    | num n => exact m.same_comm n
    | _ => rfl
  | .str s, j => by
    cases j with
    | str t => exact Bool.beq_comm
    | _ => rfl
  | .arr is, j => by
    cases j with
    | arr js => exact sameItems_comm is js
    | _ => rfl
  | .obj fs, j => by
    cases j with
    | obj gs => exact sameFields_comm fs gs
    | _ => rfl
  | .unreadable, j => by cases j <;> rfl

theorem sameItems_comm : ∀ is js : List Json, sameItems is js = sameItems js is
  | [], [] => rfl
  | [], _ :: _ => rfl
  | _ :: _, [] => rfl
  | i :: is, j :: js => by rw [sameItems, sameItems, same_comm i j, sameItems_comm is js]

theorem sameFields_comm : ∀ fs gs : List (String × Json), sameFields fs gs = sameFields gs fs
  | [], [] => rfl
  | [], _ :: _ => rfl
  | _ :: _, [] => rfl
  | (k, i) :: fs, (l, j) :: gs => by
    rw [sameFields, sameFields, same_comm i j, sameFields_comm fs gs, Bool.beq_comm (a := k)]

end

/-- Objects are equal if the same keys lead to equal values. -/
theorem sameFields_of_get? {fs gs : List (String × Json)} (left : Sorted fs) (right : Sorted gs)
    (agree : ∀ key, Option.Rel (fun x y => x.same y = true) (get? fs key) (get? gs key)) :
    sameFields fs gs = true := by
  -- The first fields have the same key, and behind them the objects agree again.
  induction fs generalizing gs with
  | nil =>
    cases gs with
    | nil => rfl
    | cons g gs =>
      have here := agree g.1
      rw [get?_nil, get?_cons, if_pos rfl] at here
      cases here
  | cons f fs ih =>
    obtain ⟨lowest, leftRest⟩ := sorted_cons.mp left
    cases gs with
    | nil =>
      have here := agree f.1
      rw [get?_nil, get?_cons, if_pos rfl] at here
      cases here
    | cons g gs =>
      obtain ⟨lowest', rightRest⟩ := sorted_cons.mp right
      -- The first keys are the lowest ones of either side, so each is at most the other.
      have atMost : g.1 ≤ f.1 := by
        refine le_of_get?_cons lowest' fun absent => ?_
        have here := agree f.1
        rw [get?_cons, if_pos rfl, absent] at here
        cases here
      have atLeast : f.1 ≤ g.1 := by
        refine le_of_get?_cons lowest fun absent => ?_
        have here := agree g.1
        rw [get?_cons g, if_pos rfl, absent] at here
        cases here
      have key : f.1 = g.1 := String.le_antisymm atLeast atMost
      obtain ⟨k, x⟩ := f
      obtain ⟨l, y⟩ := g
      cases key
      have first : x.same y = true := by
        have here := agree k
        rw [get?_cons, get?_cons, if_pos rfl, if_pos rfl] at here
        cases here
        assumption
      have rest : sameFields fs gs = true := by
        refine ih leftRest rightRest fun other => ?_
        by_cases e : other = k
        · subst e
          rw [get?_eq_none_of_lt lowest, get?_eq_none_of_lt lowest']
          exact .none
        · have here := agree other
          rwa [get?_cons, get?_cons, if_neg e, if_neg e] at here
      rw [sameFields, first, rest, beq_self_eq_true]
      rfl

/-- In equal objects the same keys lead to equal values. -/
theorem rel_get?_of_sameFields : ∀ {fs gs : List (String × Json)}, sameFields fs gs = true →
    ∀ key, Option.Rel (fun x y => x.same y = true) (get? fs key) (get? gs key)
  | [], [], _, _ => .none
  | (k, i) :: fs, (l, j) :: gs, equal, key => by
    simp only [sameFields, Bool.and_eq_true, beq_iff_eq] at equal
    obtain ⟨⟨rfl, first⟩, rest⟩ := equal
    rw [get?_cons, get?_cons]
    split
    · exact .some first
    · exact rel_get?_of_sameFields rest key

/-! ## Canonical form -/

theorem haveValues_insertSorted {key : String} {x : Json} {fields : List (String × Json)}
    (value : IsValue x) (values : HaveValues fields) :
    HaveValues (insertSorted key x fields) := by
  refine haveValues_iff.mpr fun f member => ?_
  rcases mem_insertSorted member with rfl | given
  · exact value
  · exact haveValues_iff.mp values f given

theorem haveValues_sortFields {fields : List (String × Json)} (values : HaveValues fields) :
    HaveValues (sortFields fields) := by
  have keeps : ∀ sorted : List (String × Json), HaveValues sorted →
      HaveValues (fields.foldl (fun sorted f => insertSorted f.1 f.2 sorted) sorted) := by
    induction fields with
    | nil => exact fun _ given => given
    | cons f fields ih =>
      exact fun _ given => ih values.2 _ (haveValues_insertSorted values.1 given)
  exact keeps [] trivial

mutual

/-- Sorting the keys of a sound document makes a value of it. -/
theorem isValue_canonical : ∀ {j : Json}, IsSound j → IsValue j.canonical
  | .null, _ => trivial
  | .bool _, _ => trivial
  | .num (.whole _), _ => trivial
  | .num (.real _), finite => finite
  | .str _, _ => trivial
  | .arr _, sound => areValues_canonicalItems sound
  | .obj _, sound => ⟨sorted_sortFields _, haveValues_sortFields (haveValues_canonicalFields sound)⟩

theorem areValues_canonicalItems : ∀ {items : List Json}, AreSound items →
    AreValues (canonicalItems items)
  | [], _ => trivial
  | _ :: _, ⟨first, rest⟩ => ⟨isValue_canonical first, areValues_canonicalItems rest⟩

theorem haveValues_canonicalFields : ∀ {fields : List (String × Json)}, HaveSound fields →
    HaveValues (canonicalFields fields)
  | [], _ => trivial
  | _ :: _, ⟨first, rest⟩ => ⟨isValue_canonical first, haveValues_canonicalFields rest⟩

end

end DesignTokens.Json
