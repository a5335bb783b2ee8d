import DesignTokens.Proofs.Files.Frame

/-!
# The same steps in two trees

Two trees may differ in what they hold already.  Where the same folders are made
and the same files are written in both of them, the places that change in either
one come to hold the same.
-/

namespace DesignTokens.FileTree

/-! ## Folders that were made -/

/-- The place of a new folder is where its path leads, with a slash at its end or without. -/
theorem isFolder_of_makeFolder {t t' : FileTree} {path : String}
    (made : t.makeFolder path = .ok t') : t'.isFolder path = true := by
  obtain ⟨place, walked, nothing, rfl⟩ := makeFolder_eq_ok made
  have inside : place ≠ [] := by
    rintro rfl
    cases nothing
  have folder : entry? (t.put place .folder) place = some .folder := by
    rw [entry?_put inside, if_pos rfl]
  have there := (addsFolders_put nothing).keepsFolders.walk walked
  have located : locate (t.put place .folder) path = .ok place := by
    unfold walk at there
    rw [locate, walk]
    split at there
    · cases there
    · split at there
      · cases there
      · rename_i given
        rw [if_neg given, Path.namesInto, List.foldlM_append, there]
        split
        · -- The point behind the last slash leads from the folder to itself.
          show (enter (t.put place .folder) place "." >>= pure) = _
          rw [enter, folder]
          rfl
        · rfl
  rw [isFolder, located]
  simp only [folder]

theorem isFolder_of_acceptFolder {path : String} {t between t' : FileTree}
    {outcome : Except FileError Unit}
    (tried : (MonadFiles.makeFolder path : StateM FileTree (Except FileError Unit)) t
      = (outcome, between))
    (accepted : (acceptFolder path outcome : StateM FileTree (Except FileError Unit)) between
      = (.ok (), t')) : t'.isFolder path = true := by
  cases outcome with
  | ok _ =>
    cases accepted
    change t.change (t.makeFolder path) = _ at tried
    cases made : t.makeFolder path with
    | error e =>
      rw [made] at tried
      cases tried
    | ok t₁ =>
      rw [made] at tried
      cases tried
      exact isFolder_of_makeFolder made
  | error e =>
    change (if between.isFolder path then Except.ok () else Except.error e, between) = _ at accepted
    split at accepted
    · rename_i there
      cases accepted
      exact there
    · cases accepted

/-- If a folder could be made with those around it, it is there. -/
theorem isFolder_of_makeFolders {path : String} (given : path ≠ "") {t t' : FileTree}
    (made : (makeFolders path : StateM FileTree (Except FileError Unit)) t = (.ok (), t')) :
    t'.isFolder path = true := by
  rw [makeFolders, makeFolderIn, if_neg given] at made
  simp only [bind, StateT.bind] at made
  cases tried : (MonadFiles.makeFolder path : StateM FileTree (Except FileError Unit)) t with
  | mk outcome between =>
    rw [tried] at made
    simp only at made
    split at made
    · simp only [bind, StateT.bind] at made
      cases around : (makeFolderIn (Path.parents path) :
          StateM FileTree (Except FileError Unit)) between with
      | mk outcome between =>
        rw [around] at made
        cases outcome with
        | error e => cases made
        | ok _ => exact isFolder_of_acceptFolder rfl made
    · exact isFolder_of_acceptFolder tried made

/-! ## Pairs of trees -/

/-- What the way from `a` to `a'` and that from `b` to `b'` have in common: a place is left alone
on both ways, or in the end it holds the same in both trees. -/
structure SameChanges (a b a' b' : FileTree) : Prop where
  current : a'.current = a.current ∧ b'.current = b.current
  entries (place : List String) : a'.entry? place = b'.entry? place ∨
    a'.entry? place = a.entry? place ∧ b'.entry? place = b.entry? place

namespace SameChanges

variable {a b a' b' a'' b'' : FileTree}

theorem refl (a b : FileTree) : SameChanges a b a b := ⟨⟨rfl, rfl⟩, fun _ => .inr ⟨rfl, rfl⟩⟩

theorem trans (first : SameChanges a b a' b') (second : SameChanges a' b' a'' b'') :
    SameChanges a b a'' b'' where
  current := ⟨second.current.1.trans first.current.1, second.current.2.trans first.current.2⟩
  entries place := by
    rcases second.entries place with same | ⟨left, right⟩
    · exact .inl same
    · rw [left, right]
      exact first.entries place

end SameChanges

/-! ## Operations -/

variable {a b a' b' : FileTree} {path : String}

/-- A folder that could be made in both trees is there in both, and so is everything on the way to
it, whether it had to be made or not. -/
theorem sameChanges_makeFolders (same : a.current = b.current)
    (left : (makeFolders path : StateM FileTree (Except FileError Unit)) a = (.ok (), a'))
    (right : (makeFolders path : StateM FileTree (Except FileError Unit)) b = (.ok (), b')) :
    SameChanges a b a' b' := by
  by_cases given : path = ""
  · subst given
    cases left
    cases right
    exact .refl a b
  have changesLeft := changesOnly_makeFolders a path
  have changesRight := changesOnly_makeFolders b path
  rw [left] at changesLeft
  rw [right] at changesRight
  refine ⟨⟨changesLeft.current, changesRight.current⟩, fun place => ?_⟩
  by_cases way : a.IsOnTheWay path place
  · have folder (t : FileTree) (current : t.current = a.current)
        (there : t.isFolder path = true) : t.entry? place = some .folder :=
      entry?_of_isOnTheWay there (isOnTheWay_of_current current.symm way)
    have leftFolder := folder a' changesLeft.current (isFolder_of_makeFolders given left)
    have rightFolder := folder b' (changesRight.current.trans same.symm)
      (isFolder_of_makeFolders given right)
    exact .inl (leftFolder.trans rightFolder.symm)
  · have other : ¬ b.IsOnTheWay path place :=
      fun there => way (isOnTheWay_of_current same.symm there)
    have unchanged {t t' : FileTree}
        (changes : ChangesOnly (t.IsOnTheWay path) (fun _ => False) t t')
        (off : ¬ t.IsOnTheWay path place) : t'.entry? place = t.entry? place := by
      rcases changes.entries place with impossible | unchanged | ⟨way, _⟩
      · exact impossible.elim
      · exact unchanged
      · exact absurd way off
    exact .inr ⟨unchanged changesLeft way, unchanged changesRight other⟩

theorem sameChanges_write (same : a.current = b.current) {text : String}
    (left : a.write path text = .ok a') (right : b.write path text = .ok b') :
    SameChanges a b a' b' := by
  have place : b.placeOf path = a.placeOf path := by
    rw [placeOf, placeOf, start_of_current same.symm]
  obtain ⟨_, inside, _, rfl⟩ := write_eq_ok left
  obtain ⟨_, inside', _, rfl⟩ := write_eq_ok right
  refine ⟨⟨rfl, rfl⟩, fun other => ?_⟩
  rw [entry?_put inside, entry?_put inside', place]
  split
  · exact .inl rfl
  · exact .inr ⟨rfl, rfl⟩

end DesignTokens.FileTree
