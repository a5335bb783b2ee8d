import DesignTokens.OrderedMap
import Mathlib.Data.List.Induction

/-!
# Maps of lists of entries

A map that is made of a list of entries has each key in the place where it came
up first.  Where no key comes up twice, the map has just the entries of the list.
-/

namespace DesignTokens

/-! ## Keys in the order in which they came up -/

theorem eraseDups_concat {κ : Type} [DecidableEq κ] (keys : List κ) (key : κ) :
    (keys ++ [key]).eraseDups =
      if key ∈ keys then keys.eraseDups else keys.eraseDups ++ [key] := by
  rw [List.eraseDups_append]
  split
  · rename_i known
    simp [List.removeAll, known]
  · rename_i new
    simp [List.removeAll, new, List.eraseDups_cons]

/-- What is taken from the keys of a map comes up in the order of the keys, as
long as different keys do not yield the same. -/
theorem filterMap_eraseDups {κ μ : Type} [DecidableEq κ] [DecidableEq μ] {f : κ → Option μ}
    (apart : ∀ k l x, f k = some x → f l = some x → k = l) (keys : List κ) :
    keys.eraseDups.filterMap f = (keys.filterMap f).eraseDups := by
  induction keys using List.reverseRecOn with
  | nil => rfl
  | append_singleton keys key ih =>
    rw [eraseDups_concat, List.filterMap_append]
    cases image : f key with
    | none => split <;> simp [image, ih]
    | some x =>
      -- So the last key is new among the keys just if its image is new among the images.
      have known : x ∈ keys.filterMap f ↔ key ∈ keys := by
        rw [List.mem_filterMap]
        constructor
        · rintro ⟨k, member, same⟩
          exact apart k key x same image ▸ member
        · exact fun member => ⟨key, member, image⟩
      rw [List.filterMap_cons_some image, List.filterMap_nil, eraseDups_concat]
      by_cases member : key ∈ keys
      · rw [if_pos member, if_pos (known.mpr member), ih]
      · rw [if_neg member, if_neg (fun other => member (known.mp other)), List.filterMap_append, ih,
          List.filterMap_cons_some image, List.filterMap_nil]

theorem filter_eraseDups {κ : Type} [DecidableEq κ] (keep : κ → Bool) (keys : List κ) :
    keys.eraseDups.filter keep = (keys.filter keep).eraseDups := by
  have apart : ∀ k l x, Option.guard keep k = some x → Option.guard keep l = some x → k = l := by
    intro k l x left right
    rw [Option.guard_eq_some_iff] at left right
    exact left.1.trans right.1.symm
  rw [← List.filterMap_eq_filter, filterMap_eraseDups apart]

theorem alterEntry_of_not_mem {κ α : Type} [DecidableEq κ] (key : κ) (change : Option α → α)
    {entries : List (κ × α)} (absent : key ∉ entries.map Prod.fst) :
    alterEntry key change entries = entries ++ [(key, change none)] := by
  induction entries with
  | nil => rfl
  | cons entry entries ih =>
    obtain ⟨k, x⟩ := entry
    rw [List.map_cons, List.mem_cons, not_or] at absent
    rw [alterEntry, if_neg (Ne.symm absent.1), ih absent.2]
    rfl

theorem alterEntry_concat {κ α : Type} [DecidableEq κ] {key : κ} (change : Option α → α)
    {entries : List (κ × α)} (absent : key ∉ entries.map Prod.fst) (x : α) :
    alterEntry key change (entries ++ [(key, x)]) = entries ++ [(key, change (some x))] := by
  induction entries with
  | nil => simp [alterEntry]
  | cons entry entries ih =>
    obtain ⟨k, y⟩ := entry
    rw [List.map_cons, List.mem_cons, not_or] at absent
    rw [List.cons_append, alterEntry, if_neg (Ne.symm absent.1), ih absent.2]
    rfl

theorem mem_alterEntry {κ α : Type} [DecidableEq κ] {key : κ} {change : Option α → α}
    {entries : List (κ × α)} {entry : κ × α} (member : entry ∈ alterEntry key change entries) :
    entry ∈ entries ∨ ∃ earlier, entry = (key, change earlier) := by
  induction entries with
  | nil => exact .inr ⟨none, List.mem_singleton.mp member⟩
  | cons first entries ih =>
    obtain ⟨k, x⟩ := first
    rw [alterEntry] at member
    split at member
    · rename_i same
      rcases List.mem_cons.mp member with here | later
      · exact .inr ⟨some x, same ▸ here⟩
      · exact .inl (List.mem_cons_of_mem _ later)
    · rcases List.mem_cons.mp member with here | later
      · exact .inl (here ▸ List.mem_cons_self)
      · exact (ih later).imp_left (List.mem_cons_of_mem _)

/-! ## Last occurrences -/

/-- Where something of a kind occurs, it occurs for the last time. -/
theorem exists_last {τ : Type} {P : τ → Prop} {ts : List τ} (occurs : ∃ t ∈ ts, P t) :
    ∃ before t after, ts = before ++ t :: after ∧ P t ∧ ∀ u ∈ after, ¬ P u := by
  induction ts with
  | nil => simp at occurs
  | cons t ts ih =>
    by_cases later : ∃ u ∈ ts, P u
    · obtain ⟨before, u, after, rfl, holds, last⟩ := ih later
      exact ⟨t :: before, u, after, rfl, holds, last⟩
    · obtain ⟨u, member, holds⟩ := occurs
      rcases List.mem_cons.mp member with rfl | inside
      · exact ⟨[], u, ts, rfl, holds, fun v there other => later ⟨v, there, other⟩⟩
      · exact absurd ⟨u, inside, holds⟩ later

/-- A key with an entry has a last one. -/
theorem exists_last_entry {κ α : Type} {entries : List (κ × α)} {key : κ}
    (member : key ∈ entries.map Prod.fst) :
    ∃ before x after, entries = before ++ (key, x) :: after ∧ key ∉ after.map Prod.fst := by
  obtain ⟨before, ⟨_, x⟩, after, split, rfl, last⟩ := exists_last (List.mem_map.mp member)
  refine ⟨before, x, after, split, fun later => ?_⟩
  obtain ⟨entry, inside, same⟩ := List.mem_map.mp later
  exact last entry inside same

/-! ## Maps of lists -/

namespace OrderedMap

variable {κ α : Type} [DecidableEq κ]

theorem ofList_concat (entries : List (κ × α)) (entry : κ × α) :
    ofList (entries ++ [entry]) = (ofList entries).insert entry.1 entry.2 := by
  rw [ofList, List.foldl_append]
  rfl

/-- Each key is in the place where it came up first. -/
theorem keys_ofList (entries : List (κ × α)) :
    (ofList entries).keys = (entries.map Prod.fst).eraseDups := by
  induction entries using List.reverseRecOn with
  | nil => rfl
  | append_singleton entries entry ih =>
    rw [ofList_concat, insert, keys_alter, ih, List.map_append, List.map_cons, List.map_nil,
      eraseDups_concat]
    simp only [List.mem_eraseDups]

/-- No entry comes from elsewhere. -/
theorem mem_of_mem_entries_ofList {entries : List (κ × α)} {entry : κ × α}
    (member : entry ∈ (ofList entries).entries) : entry ∈ entries := by
  induction entries using List.reverseRecOn with
  | nil => exact member
  | append_singleton entries last ih =>
    rw [ofList_concat] at member
    rcases mem_alterEntry member with earlier | ⟨_, rfl⟩
    · exact List.mem_append_left _ (ih earlier)
    · exact List.mem_append_right _ List.mem_cons_self

/-- The value of a key is the last one that it was given. -/
theorem get?_ofList (entries : List (κ × α)) (key : κ) :
    (ofList entries).get? key = entries.reverse.lookup key := by
  induction entries using List.reverseRecOn with
  | nil => rfl
  | append_singleton entries entry ih =>
    rw [ofList_concat, insert, get?_alter, ih, List.reverse_concat, List.lookup_cons]
    by_cases same : key = entry.1
    · simp [same]
    · simp [same, beq_eq_false_iff_ne.mpr same]

theorem lookup_reverse_of_not_mem {entries : List (κ × α)} {key : κ}
    (absent : key ∉ entries.map Prod.fst) : entries.reverse.lookup key = none := by
  rw [List.lookup_eq_none_iff]
  intro entry member
  rw [bne_iff_ne]
  rintro rfl
  exact absent (List.mem_map_of_mem (List.mem_reverse.mp member))

/-- A key without an entry has no value. -/
theorem get?_ofList_eq_none {entries : List (κ × α)} {key : κ}
    (absent : key ∉ entries.map Prod.fst) : (ofList entries).get? key = none := by
  rw [get?_ofList, lookup_reverse_of_not_mem absent]

/-- What comes behind the last entry of a key does not change its value. -/
theorem get?_ofList_of_not_mem {before after : List (κ × α)} {key : κ} (x : α)
    (absent : key ∉ after.map Prod.fst) :
    (ofList (before ++ (key, x) :: after)).get? key = some x := by
  rw [get?_ofList, List.reverse_append, List.reverse_cons, List.append_assoc, List.lookup_append,
    lookup_reverse_of_not_mem absent, Option.none_or]
  simp

/-- Where several entries come from one origin each, the last origin with a key decides. -/
theorem get?_ofList_flatMap {τ : Type} {origin : τ → List (κ × α)} {before after : List τ} {t : τ}
    {key : κ} {x : α} {first rest : List (κ × α)} (here : origin t = first ++ (key, x) :: rest)
    (last : key ∉ rest.map Prod.fst) (later : ∀ u ∈ after, key ∉ (origin u).map Prod.fst) :
    (ofList ((before ++ t :: after).flatMap origin)).get? key = some x := by
  have absent : key ∉ (rest ++ after.flatMap origin).map Prod.fst := by
    rw [List.map_append, List.mem_append, List.map_flatMap, List.mem_flatMap]
    rintro (member | ⟨u, member, given⟩)
    · exact last member
    · exact later u member given
  rw [List.flatMap_append, List.flatMap_cons, here, List.append_assoc, List.cons_append,
    ← List.append_assoc]
  exact get?_ofList_of_not_mem x absent

/-- Where keys differ nothing is lost. -/
theorem entries_ofList {entries : List (κ × α)} (apart : (entries.map Prod.fst).Nodup) :
    (ofList entries).entries = entries := by
  induction entries using List.reverseRecOn with
  | nil => rfl
  | append_singleton entries entry ih =>
    rw [List.map_append, List.nodup_append] at apart
    obtain ⟨earlier, _, differ⟩ := apart
    have absent : entry.1 ∉ (ofList entries).entries.map Prod.fst := by
      rw [ih earlier]
      exact fun member => differ entry.1 member entry.1 List.mem_cons_self rfl
    rw [ofList_concat]
    refine (alterEntry_of_not_mem entry.1 _ absent).trans ?_
    rw [ih earlier]

/-- A map is the map of its entries. -/
theorem ofList_entries (m : OrderedMap κ α) : ofList m.entries = m :=
  OrderedMap.ext (entries_ofList m.nodup)

theorem get?_of_mem {m : OrderedMap κ α} {entry : κ × α} (member : entry ∈ m.entries) :
    m.get? entry.1 = some entry.2 := by
  obtain ⟨before, after, split⟩ := List.append_of_mem member
  have absent : entry.1 ∉ after.map Prod.fst := by
    have apart := m.nodup
    rw [split, List.map_append, List.map_cons] at apart
    exact (List.nodup_cons.mp (List.nodup_append.mp apart).2.1).1
  rw [← ofList_entries m, split]
  exact get?_ofList_of_not_mem entry.2 absent

theorem get?_eq_some_iff {m : OrderedMap κ α} {key : κ} {x : α} :
    m.get? key = some x ↔ (key, x) ∈ m.entries := by
  refine ⟨fun found => ?_, fun member => get?_of_mem member⟩
  obtain ⟨before, after, parts, _⟩ := List.lookup_eq_some_iff.mp found
  rw [parts]
  simp

theorem mem_keys_insert {m : OrderedMap κ α} {key other : κ} {x : α} :
    other ∈ (m.insert key x).keys ↔ other = key ∨ other ∈ m.keys := by
  rw [insert, keys_alter]
  split
  · rename_i old
    exact ⟨.inr, fun given => given.elim (fun same => same ▸ old) id⟩
  · rw [List.mem_append, List.mem_singleton, or_comm]

/-- An insertion leaves the entries of all other keys. -/
theorem mem_entries_insert {m : OrderedMap κ α} {key : κ} {x : α} {entry : κ × α} :
    entry ∈ (m.insert key x).entries ↔ entry = (key, x) ∨ entry ∈ m.entries ∧ entry.1 ≠ key := by
  obtain ⟨other, y⟩ := entry
  rw [← get?_eq_some_iff, ← get?_eq_some_iff, insert, get?_alter, Prod.mk.injEq]
  split
  · rename_i same
    simp [same, eq_comm]
  · rename_i differ
    simp [differ]

/-- The entries of a map are its keys with their values.  No key is without one. -/
theorem entries_eq_map (m : OrderedMap κ α) (x : α) :
    m.entries = m.keys.map (fun key => (key, (m.get? key).getD x)) := by
  rw [keys, List.map_map]
  refine ((List.map_congr_left fun entry member => ?_).trans (List.map_id _)).symm
  show (entry.1, (m.get? entry.1).getD x) = entry
  rw [get?_of_mem member]
  rfl

/-! ## Values put together -/

/-- The values that a list of entries has for a key, in order. -/
def valuesOf (key : κ) (entries : List (κ × α)) : List α :=
  entries.filterMap (fun entry => if entry.1 = key then some entry.2 else none)

theorem valuesOf_concat (key : κ) (entries : List (κ × α)) (entry : κ × α) :
    valuesOf key (entries ++ [entry]) =
      valuesOf key entries ++ if entry.1 = key then [entry.2] else [] := by
  rw [valuesOf, List.filterMap_append, ← valuesOf]
  by_cases here : entry.1 = key <;> simp [here]

/-- Gives each key of a list its value.  Where there is one already, the two are joined. -/
def mergeAll (join : α → α → α) (m : OrderedMap κ α) (entries : List (κ × α)) : OrderedMap κ α :=
  entries.foldl (fun m entry => m.alter entry.1 (fun earlier =>
    match earlier with
    | some x => join x entry.2
    | none => entry.2)) m

theorem ofList_eq_mergeAll (entries : List (κ × α)) :
    ofList entries = empty.mergeAll (fun _ y => y) entries := by
  rw [ofList, mergeAll]
  congr 1
  funext m entry
  have same : (fun _ => entry.2) = fun earlier : Option α =>
      match earlier with
      | some _ => entry.2
      | none => entry.2 := funext fun earlier => by cases earlier <;> rfl
  rw [insert, same]

section Merging

variable {join : α → α → α}

theorem mergeAll_concat (m : OrderedMap κ α) (entries : List (κ × α)) (entry : κ × α) :
    m.mergeAll join (entries ++ [entry]) =
      (m.mergeAll join entries).alter entry.1 (fun earlier =>
        match earlier with
        | some x => join x entry.2
        | none => entry.2) := by
  rw [mergeAll, List.foldl_append]
  rfl

theorem keys_mergeAll (m : OrderedMap κ α) (entries : List (κ × α)) :
    (m.mergeAll join entries).keys = (m.keys ++ entries.map Prod.fst).eraseDups := by
  induction entries using List.reverseRecOn with
  | nil =>
    have own := keys_ofList m.entries
    rw [ofList_entries] at own
    rw [List.map_nil, List.append_nil]
    exact own
  | append_singleton entries entry ih =>
    rw [mergeAll_concat, keys_alter, ih, List.map_append, List.map_cons, List.map_nil,
      ← List.append_assoc, eraseDups_concat]
    simp only [List.mem_eraseDups]

/-- A key has the value from before joined with those of its entries, one after the other. -/
theorem get?_mergeAll (m : OrderedMap κ α) (entries : List (κ × α)) (key : κ) :
    (m.mergeAll join entries).get? key =
      (valuesOf key entries).foldl (fun x y => x.merge join (some y)) (m.get? key) := by
  induction entries using List.reverseRecOn with
  | nil => rfl
  | append_singleton entries entry ih =>
    rw [mergeAll_concat, get?_alter, valuesOf_concat, List.foldl_append, ← ih]
    by_cases here : key = entry.1
    · subst here
      rw [if_pos rfl, if_pos rfl]
      cases (m.mergeAll join entries).get? entry.1 <;> rfl
    · rw [if_neg here, if_neg (Ne.symm here)]
      rfl

/-- Whether a map is another one brought up to date by a third: the keys that are new come behind
the others, and where both have a value, the two are joined. -/
structure IsUpdate (join : α → α → α) (m n updated : OrderedMap κ α) : Prop where
  keys : updated.keys = m.keys ++ n.keys.filter (fun key => key ∉ m.keys)
  get? (key : κ) : updated.get? key = (m.get? key).merge join (n.get? key)

/-- What is joined from two lists of entries is what is joined from the first, brought up to date
by what is joined from the second. -/
theorem isUpdate_mergeAll [Std.Associative join] (entries more : List (κ × α)) :
    IsUpdate join (empty.mergeAll join entries) (empty.mergeAll join more)
      (empty.mergeAll join (entries ++ more)) where
  keys := by
    have nothing : ∀ keys : List κ, (empty : OrderedMap κ α).keys ++ keys = keys := fun _ => rfl
    have fresh : (more.map Prod.fst).removeAll (entries.map Prod.fst) =
        (more.map Prod.fst).filter (fun key => key ∉ (entries.map Prod.fst).eraseDups) := by
      refine List.filter_congr fun key _ => ?_
      rw [List.elem_eq_mem, ← decide_not]
      exact decide_eq_decide.mpr (not_congr List.mem_eraseDups.symm)
    simp only [keys_mergeAll, nothing]
    rw [List.map_append, List.eraseDups_append, fresh, filter_eraseDups]
  get? key := by
    -- The values of the second list can be joined first, as joining is associative.
    have later : ∀ (x : Option α) (values : List α),
        values.foldl (fun x y => x.merge join (some y)) x =
          x.merge join (values.foldl (fun x y => x.merge join (some y)) none) := by
      intro x values
      induction values using List.reverseRecOn with
      | nil => simp
      | append_singleton values value ih =>
        rw [List.foldl_append, List.foldl_append, List.foldl_cons, List.foldl_nil, List.foldl_cons,
          List.foldl_nil, ih]
        exact Std.Associative.assoc _ _ _
    simp only [get?_mergeAll, valuesOf, List.filterMap_append, List.foldl_append]
    exact later _ _

end Merging

end OrderedMap

end DesignTokens
