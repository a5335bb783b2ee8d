import DesignTokens.Proofs.Files.Parents

/-!
# What operations on files leave alone

Making a folder touches nothing but the places on the way to it, where folders
come up if nothing was there.  Writing a file touches nothing but its place.
-/

namespace DesignTokens

/-! ## Plain names -/

/-- A name that leads from a folder to an entry of this folder, on every system. -/
structure Path.IsPlain (name : String) : Prop where
  given : name ≠ ""
  noSlash : '/' ∉ name.toList
  noBackslash : '\\' ∉ name.toList
  noNul : '\x00' ∉ name.toList
  notHere : name ≠ "."
  notUp : name ≠ ".."

instance (name : String) : Decidable (Path.IsPlain name) :=
  decidable_of_iff (name ≠ "" ∧ '/' ∉ name.toList ∧ '\\' ∉ name.toList ∧ '\x00' ∉ name.toList ∧
      name ≠ "." ∧ name ≠ "..")
    ⟨fun ⟨given, slash, backslash, nul, here, up⟩ => ⟨given, slash, backslash, nul, here, up⟩,
      fun p => ⟨p.given, p.noSlash, p.noBackslash, p.noNul, p.notHere, p.notUp⟩⟩

namespace Path

theorem names_foldl_join {segments : List String} (plain : ∀ name ∈ segments, IsPlain name)
    (folder : String) : names (segments.foldl join folder) = names folder ++ segments := by
  induction segments generalizing folder with
  | nil => rw [List.foldl_nil, List.append_nil]
  | cons name rest ih =>
    rw [List.forall_mem_cons] at plain
    rw [List.foldl_cons, ih plain.2, names_join folder plain.1.noSlash plain.1.given,
      List.append_assoc, List.singleton_append]

end Path

namespace FileTree

theorem follow_plain {name : String} (plain : Path.IsPlain name) (place : List String) :
    follow place name = place ++ [name] := by
  rw [follow, if_neg plain.notHere, if_neg plain.notUp]

theorem foldl_follow_plain {segments : List String} (plain : ∀ name ∈ segments, Path.IsPlain name)
    (place : List String) : segments.foldl follow place = place ++ segments := by
  induction segments generalizing place with
  | nil => rw [List.foldl_nil, List.append_nil]
  | cons name rest ih =>
    rw [List.forall_mem_cons] at plain
    rw [List.foldl_cons, ih plain.2, follow_plain plain.1, List.append_assoc,
      List.singleton_append]

theorem placeOf_eq (t : FileTree) (path : String) :
    t.placeOf path = (Path.names path).foldl follow (t.start path) := by
  rw [placeOf, Path.namesInto, List.foldl_append]
  split <;> rfl

/-! ## Frames -/

/-- What changes from one tree to another: at some places folders come up where nothing was, at
some places anything may happen, and everything else stays as it is. -/
structure ChangesOnly (folders anything : List String → Prop) (t t' : FileTree) : Prop where
  current : t'.current = t.current
  entries (place : List String) : anything place ∨ t'.entry? place = t.entry? place ∨
    folders place ∧ t.entry? place = none ∧ t'.entry? place = some .folder

namespace ChangesOnly

variable {folders anything : List String → Prop} {t t' t'' : FileTree}

theorem refl (t : FileTree) : ChangesOnly folders anything t t := ⟨rfl, fun _ => .inr (.inl rfl)⟩

theorem trans (first : ChangesOnly folders anything t t')
    (second : ChangesOnly folders anything t' t'') : ChangesOnly folders anything t t'' where
  current := second.current.trans first.current
  entries place := by
    rcases first.entries place with free | same | ⟨way, nothing, folder⟩
    · exact .inl free
    · rw [← same]
      exact second.entries place
    · rcases second.entries place with free | same | ⟨_, nothing', _⟩
      · exact .inl free
      · exact .inr (.inr ⟨way, nothing, same.trans folder⟩)
      · rw [folder] at nothing'
        cases nothing'

theorem mono {folders' anything' : List String → Prop} (changes : ChangesOnly folders anything t t')
    (ways : ∀ place, folders place → folders' place ∨ anything' place)
    (wider : ∀ place, anything place → anything' place) :
    ChangesOnly folders' anything' t t' where
  current := changes.current
  entries place := by
    rcases changes.entries place with free | same | ⟨way, added⟩
    · exact .inl (wider place free)
    · exact .inr (.inl same)
    · exact (ways place way).elim (fun way => .inr (.inr ⟨way, added⟩)) .inl

end ChangesOnly

/-! ## Operations -/

/-- Whether a place is one of those that a path leads through, its own place included. -/
def IsOnTheWay (t : FileTree) (path : String) (place : List String) : Prop :=
  ∃ names, names <+: Path.names path ∧ place = names.foldl follow (t.start path)

theorem start_of_current {t t' : FileTree} (same : t'.current = t.current) (path : String) :
    t'.start path = t.start path := by
  rw [start, start, same]

theorem isOnTheWay_of_current {t t' : FileTree} (same : t.current = t'.current) {path : String}
    {place : List String} (way : t.IsOnTheWay path place) : t'.IsOnTheWay path place := by
  obtain ⟨names, first, here⟩ := way
  exact ⟨names, first, by rw [here, start_of_current same]⟩

theorem changesOnly_makeFolder (t : FileTree) (path : String) :
    ChangesOnly (t.IsOnTheWay path) (fun _ => False) t
      ((MonadFiles.makeFolder path : StateM FileTree (Except FileError Unit)) t).2 := by
  show ChangesOnly _ _ t (t.change (t.makeFolder path)).2
  cases made : t.makeFolder path with
  | error e => exact .refl t
  | ok t' =>
    obtain ⟨place, walked, nothing, rfl⟩ := makeFolder_eq_ok made
    have here := foldlM_enter_eq_ok (walk_eq_ok walked)
    refine ⟨rfl, fun other => .inr ?_⟩
    have inside : place ≠ [] := by
      rintro rfl
      cases nothing
    show entry? (t.put place .folder) other = _ ∨ _ ∧ _ ∧ entry? (t.put place .folder) other = _
    rw [entry?_put inside]
    split
    · rename_i same
      subst same
      exact .inr ⟨⟨_, List.prefix_rfl, here⟩, nothing, rfl⟩
    · exact .inl rfl

theorem isOnTheWay_of_isAround {t : FileTree} {before path : String} {place : List String}
    (around : Path.IsAround before path) (way : t.IsOnTheWay before place) :
    t.IsOnTheWay path place := by
  obtain ⟨names, first, here⟩ := way
  refine ⟨names, first.trans around.names, ?_⟩
  rw [here, start, start, around.start]

/-- Making a folder and those around it makes folders on the way and does nothing else. -/
theorem changesOnly_makeFolders (t : FileTree) (path : String) :
    ChangesOnly (t.IsOnTheWay path) (fun _ => False) t
      ((makeFolders path : StateM FileTree (Except FileError Unit)) t).2 := by
  -- Where a path starts depends on the current folder, which stays the same all along.
  let R (a b : FileTree) : Prop :=
    a.current = t.current → ChangesOnly (t.IsOnTheWay path) (fun _ => False) a b
  have trans : ∀ {a b c : FileTree}, R a b → R b c → R a c := by
    intro a b c first second same
    have early := first same
    exact early.trans (second (early.current.trans same))
  refine makeFolderIn_rel (R := R) (fun a _ => .refl a) trans ?_ t rfl
  intro before member a same
  have around : Path.IsAround before path := by
    rcases List.mem_cons.mp member with rfl | further
    · exact .refl before
    · exact Path.isAround_of_mem_parents further
  refine (changesOnly_makeFolder a before).mono (fun place way => .inl ?_) fun _ => id
  exact isOnTheWay_of_current same (isOnTheWay_of_isAround around way)

/-- A walk that comes to a folder goes through nothing but folders. -/
theorem entry?_of_foldlM_enter {t : FileTree} {names rest place q : List String}
    (walked : (names ++ rest).foldlM t.enter place = .ok q) (last : t.entry? q = some .folder) :
    t.entry? (names.foldl follow place) = some .folder := by
  rw [List.foldlM_append] at walked
  cases first : names.foldlM t.enter place with
  | error e =>
    rw [first] at walked
    cases walked
  | ok between =>
    rw [first] at walked
    rw [← foldlM_enter_eq_ok first]
    cases rest with
    | nil =>
      cases walked
      exact last
    | cons name more =>
      have step : (do
          let r ← t.enter between name
          more.foldlM t.enter r) = .ok q := walked
      cases entered : t.enter between name with
      | error e =>
        rw [entered] at step
        cases step
      | ok r => exact (enter_eq_ok entered).1

theorem entry?_of_isOnTheWay {t : FileTree} {path : String} (there : t.isFolder path = true)
    {place : List String} (way : t.IsOnTheWay path place) : t.entry? place = some .folder := by
  obtain ⟨names, ⟨rest, whole⟩, rfl⟩ := way
  rw [isFolder] at there
  split at there
  · cases there
  · rename_i q located
    have last : t.entry? q = some .folder := by
      split at there
      · assumption
      · cases there
    have walked := walk_eq_ok located
    rw [Path.namesInto, ← whole, List.append_assoc] at walked
    exact entry?_of_foldlM_enter walked last

theorem changesOnly_write (t : FileTree) (path text : String) :
    ChangesOnly (fun _ => False) (· = t.placeOf path) t
      ((writeText path text : StateM FileTree (Except FileError Unit)) t).2 := by
  show ChangesOnly _ _ t (t.change (t.write path text)).2
  cases written : t.write path text with
  | error e => exact .refl t
  | ok t' =>
    obtain ⟨_, inside, _, rfl⟩ := write_eq_ok written
    refine ⟨rfl, fun other => ?_⟩
    show _ ∨ entry? (t.put _ _) other = _ ∨ _
    rw [entry?_put inside]
    split
    · rename_i same
      exact .inl same
    · exact .inr (.inl rfl)

end FileTree

end DesignTokens
