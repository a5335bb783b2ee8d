import DesignTokens.History.Log
import DesignTokens.Proofs.Files.Tree

/-!
# Stores that keep texts

What a history needs of its store: a text that was saved under one of its keys
is loaded from there until another one is saved, whatever happens to the other
key.  The store in memory and the store in a folder are of this kind.
-/

namespace DesignTokens

/-- Texts by key. -/
abbrev Texts := String → Option String

/-- The texts after one was put under a key. -/
def Texts.put (texts : Texts) (key text : String) : Texts :=
  fun other => if other = key then some text else texts other

@[simp]
theorem Texts.put_self (texts : Texts) (key text : String) : texts.put key text key = some text :=
  if_pos rfl

theorem Texts.put_of_ne {texts : Texts} {key other text : String} (apart : other ≠ key) :
    texts.put key text other = texts other := if_neg apart

/-- The keys of a history. -/
def History.keys : List String := [versionsKey, currentKey]

namespace Store

/-- A store whose states hold texts.  A load that succeeds gives the text under
its key, and a save that succeeds replaces it. -/
structure Keeps {σ : Type} (store : Store (StateM σ)) (Holds : σ → Texts → Prop) : Prop where
  load {s : σ} {texts : Texts} {key : String} : Holds s texts → key ∈ History.keys →
    ∃ outcome, store.load key s = (outcome, s) ∧ ∀ text?, outcome = .ok text? → text? = texts key
  save {s s' : σ} {texts : Texts} {key text : String} : Holds s texts → key ∈ History.keys →
    store.save key text s = (.ok (), s') → Holds s' (texts.put key text)

/-! ## Memory -/

/-- The texts on a shelf. -/
def OnShelf (shelf : Shelf) (texts : Texts) : Prop := ∀ key, shelf.get? key = texts key

theorem keeps_memory : memory.Keeps OnShelf where
  load {s texts key} holds _ := by
    refine ⟨.ok (s.get? key), rfl, ?_⟩
    rintro text? ⟨⟩
    exact holds key
  save {s s' texts key text} holds _ saved := by
    cases saved
    intro other
    show (s.alter key fun _ => text).get? other = _
    rw [OrderedMap.get?_alter, Texts.put, holds other]

/-! ## Folders -/

/-- The names of the files of a history are plain. -/
theorem plain_of_mem_keys {key : String} (member : key ∈ History.keys) :
    '/' ∉ (key ++ ".json").toList ∧ key ++ ".json" ≠ "" ∧ key ++ ".json" ≠ "." ∧
      key ++ ".json" ≠ ".." ∧ Path.isAbsolute (key ++ ".json") = false := by
  simp only [History.keys, List.mem_cons, List.not_mem_nil, or_false] at member
  rcases member with rfl | rfl <;> decide

theorem placeOf_filePath (t : FileTree) (path : String) {key : String}
    (member : key ∈ History.keys) :
    t.placeOf (filePath path key)
      = (Path.names path).foldl FileTree.follow (t.start path) ++ [key ++ ".json"] := by
  obtain ⟨whole, given, notHere, notUp, relative⟩ := plain_of_mem_keys member
  have start : t.start (filePath path key) = t.start path := by
    rw [FileTree.start, FileTree.start, filePath, Path.isAbsolute_join path relative]
  rw [FileTree.placeOf, start, filePath, Path.namesInto_join path whole given, List.foldl_append]
  show FileTree.follow _ (key ++ ".json") = _
  rw [FileTree.follow, if_neg notHere, if_neg notUp]

theorem placeOf_filePath_ne (t : FileTree) (path : String) {key other : String}
    (member : key ∈ History.keys) (member' : other ∈ History.keys) (apart : other ≠ key) :
    t.placeOf (filePath path other) ≠ t.placeOf (filePath path key) := by
  intro same
  rw [placeOf_filePath t path member, placeOf_filePath t path member'] at same
  have names := List.append_cancel_left same
  simp only [History.keys, List.mem_cons, List.not_mem_nil, or_false] at member member'
  rcases member with rfl | rfl <;> rcases member' with rfl | rfl
  · exact apart rfl
  · revert names
    decide
  · revert names
    decide
  · exact apart rfl

/-- The texts in the files of a folder.  Where there is no text, there is no
file either. -/
def InFolder (path : String) (t : FileTree) (texts : Texts) : Prop :=
  ∀ key ∈ History.keys,
    match texts key with
    | some text => t.locate (filePath path key) = .ok (t.placeOf (filePath path key)) ∧
        t.entry? (t.placeOf (filePath path key)) = some (.file text.toUTF8)
    | none => t.entry? (t.placeOf (filePath path key)) = none ∨
        t.entry? (t.placeOf (filePath path key)) = some .folder

theorem inFolder_of_addsFolders {path : String} {t t' : FileTree} {texts : Texts}
    (holds : InFolder path t texts) (adds : t.AddsFolders t') : InFolder path t' texts := by
  intro key member
  have here := holds key member
  have entries := adds.entries (t.placeOf (filePath path key))
  rw [adds.keepsFolders.placeOf]
  cases there : texts key with
  | some text =>
    rw [there] at here
    obtain ⟨located, file⟩ := here
    refine ⟨adds.keepsFolders.locate located, ?_⟩
    rcases entries with same | ⟨nothing, _⟩
    · exact same.trans file
    · rw [file] at nothing
      cases nothing
  | none =>
    rw [there] at here
    rcases entries with same | ⟨_, folder⟩
    · rcases here with nothing | folder
      · exact .inl (same.trans nothing)
      · exact .inr (same.trans folder)
    · exact .inr folder

theorem inFolder_of_write {path : String} {t t' : FileTree} {texts : Texts} {key text : String}
    (holds : InFolder path t texts) (member : key ∈ History.keys)
    (written : t.write (filePath path key) text = .ok t') :
    InFolder path t' (texts.put key text) := by
  obtain ⟨located, inside, notFolder, rfl⟩ := FileTree.write_eq_ok written
  have keeps := FileTree.keepsFolders_put_file inside notFolder text.toUTF8
  intro other member'
  rw [keeps.placeOf]
  -- The other key has a file at another place, which the write leaves alone.
  by_cases same : other = key
  · subst same
    rw [Texts.put_self]
    refine ⟨keeps.locate located, ?_⟩
    rw [FileTree.entry?_put inside, if_pos rfl]
  · have apart := placeOf_filePath_ne t path member member' same
    have before := holds other member'
    rw [Texts.put_of_ne same, FileTree.entry?_put inside, if_neg apart]
    cases there : texts other with
    | some text' =>
      rw [there] at before
      exact ⟨keeps.locate before.1, before.2⟩
    | none =>
      rw [there] at before
      exact before

/-- What loading from a folder comes to: a file that is missing has no text. -/
theorem load_folder (path key : String) (t : FileTree) :
    (folder path : Store (StateM FileTree)).load key t
      = (match t.read (filePath path key) with
        | .ok text => Except.ok (some text)
        | .error .notFound => Except.ok none
        | .error e => Except.error e, t) := by
  show (match t.read (filePath path key) with
    | .ok text => (pure (Except.ok (some text)) :
        StateM FileTree (Except FileError (Option String)))
    | .error .notFound => pure (Except.ok none)
    | .error e => pure (Except.error e)) t = _
  cases t.read (filePath path key) with
  | ok text => rfl
  | error e => cases e <;> rfl

/-- A save into a folder that succeeds has made the folder and written the file in it. -/
theorem save_folder_eq_ok {path key text : String} {t t' : FileTree}
    (saved : (folder path : Store (StateM FileTree)).save key text t = (.ok (), t')) :
    ∃ between, t.AddsFolders between ∧ between.write (filePath path key) text = .ok t' := by
  have adds := FileTree.addsFolders_makeFolders path t
  simp only [folder, bind, StateT.bind] at saved
  generalize (makeFolders path : StateM FileTree (Except FileError Unit)) t = made at adds saved
  obtain ⟨outcome, between⟩ := made
  refine ⟨between, adds, ?_⟩
  cases outcome with
  | error e => cases saved
  | ok _ =>
    change between.change (between.write (filePath path key) text) = (.ok (), t') at saved
    cases written : between.write (filePath path key) text with
    | error e =>
      rw [written] at saved
      cases saved
    | ok after =>
      rw [written] at saved
      cases saved
      rfl

theorem keeps_folder (path : String) :
    (folder path : Store (StateM FileTree)).Keeps (InFolder path) where
  load {t texts key} holds member := by
    have here := holds key member
    refine ⟨_, load_folder path key t, ?_⟩
    intro text? loaded
    -- A path that leads nowhere has no text, and then the only good answer is that there is none.
    cases located : t.locate (filePath path key) with
    | error e =>
      have failed : t.read (filePath path key) = .error e := by
        rw [FileTree.read, located]
        rfl
      rw [failed] at loaded
      cases there : texts key with
      | some text =>
        rw [there, located] at here
        cases here.1
      | none =>
        cases e <;> cases loaded
        rfl
    | ok place =>
      have same := FileTree.locate_eq_ok located
      subst same
      cases there : texts key with
      | some text =>
        rw [there] at here
        rw [FileTree.read_of_file located here.2] at loaded
        cases loaded
        rfl
      | none =>
        rw [there] at here
        rw [FileTree.read_of_locate located] at loaded
        rcases here with nothing | folder
        · rw [nothing] at loaded
          cases loaded
          rfl
        · rw [folder] at loaded
          cases loaded
  save {t t' texts key text} holds member saved := by
    obtain ⟨between, adds, written⟩ := save_folder_eq_ok saved
    exact inFolder_of_write (inFolder_of_addsFolders holds adds) member written

end Store

end DesignTokens
