import DesignTokens.Files.Tree

/-!
# Trees that grow

Making folders and writing files leaves every folder in its place, so a path
that led somewhere leads there still.  What stood at other places stands there
as before.
-/

namespace DesignTokens

/-! ## Names of joined paths -/

namespace Path

theorem parts_append (as bs : List Char) : parts (as ++ '/' :: bs) = parts as ++ parts bs := by
  induction as with
  | nil => rfl
  | cons a as ih =>
    rw [List.cons_append, parts, parts]
    split
    · rw [ih]
      rfl
    · rw [ih]
      cases here : parts as with
      | nil =>
        exfalso
        cases as with
        | nil => cases here
        | cons b bs' =>
          rw [parts] at here
          split at here
          · cases here
          · split at here <;> cases here
      | cons p ps => rfl

theorem parts_of_not_mem {cs : List Char} (whole : '/' ∉ cs) : parts cs = [cs] := by
  induction cs with
  | nil => rfl
  | cons c cs ih =>
    rw [List.mem_cons, not_or] at whole
    rw [parts, if_neg (Ne.symm whole.1), ih whole.2]

theorem names_append_slash (folder name : String) :
    names (folder ++ "/" ++ name) = names folder ++ names name := by
  have text : (folder ++ "/" ++ name).toList = folder.toList ++ '/' :: name.toList := by simp
  rw [names, names, names, text, parts_append, List.map_append, List.filter_append]

theorem names_of_ends_with_slash {folder : String} (ends : folder.toList.getLast? = some '/')
    (name : String) : names (folder ++ name) = names folder ++ names name := by
  obtain ⟨before, text⟩ := List.getLast?_eq_some_iff.mp ends
  have joined : (folder ++ name).toList = before ++ '/' :: name.toList := by simp [text]
  have nothing : ((parts []).map String.ofList).filter (fun name => name != "") = [] := by decide
  rw [names, names, names, joined, text, parts_append, parts_append, List.map_append,
    List.map_append, List.filter_append, List.filter_append, nothing, List.append_nil]

theorem names_of_plain {name : String} (whole : '/' ∉ name.toList) (given : name ≠ "") :
    names name = [name] := by
  rw [names, parts_of_not_mem whole]
  simp [given]

theorem isAbsolute_eq_false {name : String} (whole : '/' ∉ name.toList) :
    isAbsolute name = false := by
  rw [isAbsolute, decide_eq_false_iff_not]
  exact fun starts => whole (List.mem_of_head? starts)

theorem isAbsolute_join (folder : String) {name : String}
    (relative : isAbsolute name = false) :
    isAbsolute (join folder name) = isAbsolute folder := by
  rw [join, relative, Bool.false_or]
  split
  · rename_i here
    have none : folder = "" := by simpa using here
    rw [relative, none]
    rfl
  · -- Whether or not a slash has to be added, the text starts as the folder does.
    rename_i here
    have chars : folder.toList ≠ [] := fun none => here (by
      rw [decide_eq_true_eq]
      exact String.toList_eq_nil_iff.mp none)
    have first : ∀ after : List Char, (folder.toList ++ after).head? = folder.toList.head? := by
      intro after
      cases parts : folder.toList with
      | nil => exact absurd parts chars
      | cons c cs => rfl
    split
    · rw [isAbsolute, isAbsolute, String.toList_append, first]
    · rw [isAbsolute, isAbsolute, String.toList_append, String.toList_append,
        List.append_assoc, first]

/-- A plain name inside a folder comes after the names of the folder. -/
theorem names_join (folder : String) {name : String} (whole : '/' ∉ name.toList)
    (given : name ≠ "") : names (join folder name) = names folder ++ [name] := by
  rw [join, isAbsolute_eq_false whole, Bool.false_or]
  split
  · rename_i here
    have none : folder = "" := by simpa using here
    have nothing : names "" = [] := by decide
    rw [none, nothing, names_of_plain whole given]
    rfl
  · split
    · rename_i ends
      rw [names_of_ends_with_slash ends, names_of_plain whole given]
    · rw [names_append_slash, names_of_plain whole given]

/-- A path that ends in a plain name does not end in a slash. -/
theorem getLast?_join (folder : String) {name : String} (whole : '/' ∉ name.toList)
    (given : name ≠ "") : (join folder name).toList.getLast? ≠ some '/' := by
  have plain : ∀ before : List Char, (before ++ name.toList).getLast? ≠ some '/' := by
    intro before ends
    rw [List.getLast?_append] at ends
    cases last : name.toList.getLast? with
    | none => exact given (String.toList_eq_nil_iff.mp (List.getLast?_eq_none_iff.mp last))
    | some c =>
      rw [last] at ends
      cases ends
      exact whole (List.mem_of_getLast? last)
  rw [join]
  split
  · exact plain []
  · split
    · rw [String.toList_append]
      exact plain _
    · rw [String.toList_append]
      exact plain _

theorem namesInto_join (folder : String) {name : String} (whole : '/' ∉ name.toList)
    (given : name ≠ "") : namesInto (join folder name) = names folder ++ [name] := by
  rw [namesInto, if_neg (getLast?_join folder whole given), List.append_nil,
    names_join folder whole given]

end Path

namespace FileTree

/-! ## Where paths lead -/

/-- The place to which a name leads from a place. -/
def follow (place : List String) (name : String) : List String :=
  if name = "." then place else if name = ".." then place.dropLast else place ++ [name]

/-- The place to which a path leads if there is anything on its way. -/
def placeOf (t : FileTree) (path : String) : List String :=
  (Path.namesInto path).foldl follow (t.start path)

theorem enter_eq_ok {t : FileTree} {place q : List String} {name : String}
    (entered : t.enter place name = .ok q) :
    t.entry? place = some .folder ∧ q = follow place name := by
  unfold enter at entered
  split at entered
  · cases entered
  · cases entered
  · rename_i folder
    refine ⟨folder, ?_⟩
    rw [follow]
    split at entered
    · rename_i here
      cases entered
      rw [if_pos here]
    · rename_i notHere
      rw [if_neg notHere]
      split at entered
      · rename_i up
        cases entered
        rw [if_pos up]
      · rename_i notUp
        rw [if_neg notUp]
        split at entered
        · cases entered
        · cases entered
          rfl

theorem enter_of_folder {t : FileTree} {place : List String} (name : String)
    (folder : t.entry? place = some .folder) :
    t.enter place name = .ok (follow place name) ∨ t.enter place name = .error .nameTooLong := by
  unfold enter follow
  rw [folder]
  simp only
  split
  · exact .inl rfl
  · split
    · exact .inl rfl
    · split
      · exact .inr rfl
      · exact .inl rfl

theorem pathFault?_ne_notFound (path : String) : pathFault? path ≠ some .notFound := by
  unfold pathFault?
  split
  · simp
  · split <;> simp

theorem foldlM_enter_eq_ok {t : FileTree} {names : List String} {place q : List String}
    (walked : names.foldlM t.enter place = .ok q) : q = names.foldl follow place := by
  induction names generalizing place with
  | nil =>
    cases walked
    rfl
  | cons name names ih =>
    rw [List.foldlM_cons] at walked
    cases entered : t.enter place name with
    | error e =>
      rw [entered] at walked
      cases walked
    | ok r =>
      rw [entered] at walked
      rw [List.foldl_cons, ← (enter_eq_ok entered).2]
      exact ih walked

theorem walk_eq_ok {t : FileTree} {path : String} {names q : List String}
    (walked : t.walk path names = .ok q) : names.foldlM t.enter (t.start path) = .ok q := by
  unfold walk at walked
  split at walked
  · cases walked
  · split at walked
    · cases walked
    · exact walked

theorem locate_eq_ok {t : FileTree} {path : String} {q : List String}
    (located : t.locate path = .ok q) : q = t.placeOf path :=
  foldlM_enter_eq_ok (walk_eq_ok located)

/-! ## Growing trees -/

/-- Folders stay in their places. -/
structure KeepsFolders (t t' : FileTree) : Prop where
  current : t'.current = t.current
  folders {place : List String} : t.entry? place = some .folder → t'.entry? place = some .folder

/-- Folders come up where nothing was, and everything else stays as it is. -/
structure AddsFolders (t t' : FileTree) : Prop where
  current : t'.current = t.current
  entries (place : List String) : t'.entry? place = t.entry? place ∨
    t.entry? place = none ∧ t'.entry? place = some .folder

theorem AddsFolders.refl (t : FileTree) : AddsFolders t t := ⟨rfl, fun _ => .inl rfl⟩

theorem AddsFolders.trans {t t' t'' : FileTree} (first : AddsFolders t t')
    (second : AddsFolders t' t'') : AddsFolders t t'' where
  current := second.current.trans first.current
  entries place := by
    rcases second.entries place with same | ⟨nothing, folder⟩
    · rcases first.entries place with same' | ⟨nothing, folder⟩
      · exact .inl (same.trans same')
      · exact .inr ⟨nothing, same.trans folder⟩
    · rcases first.entries place with same' | ⟨_, folder'⟩
      · exact .inr ⟨same'.symm.trans nothing, folder⟩
      · rw [folder'] at nothing
        cases nothing

theorem AddsFolders.keepsFolders {t t' : FileTree} (adds : AddsFolders t t') :
    KeepsFolders t t' where
  current := adds.current
  folders folder := by
    rcases adds.entries _ with same | ⟨nothing, _⟩
    · exact same.trans folder
    · rw [folder] at nothing
      cases nothing

theorem KeepsFolders.start {t t' : FileTree} (keeps : KeepsFolders t t') (path : String) :
    t'.start path = t.start path := by
  rw [FileTree.start, FileTree.start, keeps.current]

theorem KeepsFolders.placeOf {t t' : FileTree} (keeps : KeepsFolders t t') (path : String) :
    t'.placeOf path = t.placeOf path := by
  rw [FileTree.placeOf, FileTree.placeOf, keeps.start]

theorem KeepsFolders.enter {t t' : FileTree} (keeps : KeepsFolders t t') {place q : List String}
    {name : String} (entered : t.enter place name = .ok q) : t'.enter place name = .ok q := by
  have folder := (enter_eq_ok entered).1
  unfold FileTree.enter at entered ⊢
  rw [folder] at entered
  rw [keeps.folders folder]
  exact entered

theorem KeepsFolders.foldlM_enter {t t' : FileTree} (keeps : KeepsFolders t t')
    {names place q : List String} (walked : names.foldlM t.enter place = .ok q) :
    names.foldlM t'.enter place = .ok q := by
  induction names generalizing place with
  | nil => exact walked
  | cons name names ih =>
    rw [List.foldlM_cons] at walked ⊢
    cases entered : t.enter place name with
    | error e =>
      rw [entered] at walked
      cases walked
    | ok r =>
      rw [entered] at walked
      rw [keeps.enter entered]
      exact ih walked

/-- Where folders stay, paths lead where they led. -/
theorem KeepsFolders.walk {t t' : FileTree} (keeps : KeepsFolders t t') {path : String}
    {names q : List String} (walked : t.walk path names = .ok q) :
    t'.walk path names = .ok q := by
  have further := keeps.foldlM_enter (walk_eq_ok walked)
  unfold FileTree.walk at walked ⊢
  rw [keeps.start]
  split at walked
  · cases walked
  · split at walked
    · cases walked
    · rename_i given
      rw [if_neg given]
      exact further

theorem KeepsFolders.locate {t t' : FileTree} (keeps : KeepsFolders t t') {path : String}
    {q : List String} (located : t.locate path = .ok q) : t'.locate path = .ok q :=
  keeps.walk located

theorem entry?_put {t : FileTree} {place : List String} (inside : place ≠ []) (e : FileEntry)
    (other : List String) :
    FileTree.entry? (t.put place e) other = if other = place then some e else t.entry? other := by
  unfold entry? put
  by_cases root : other = []
  · subst root
    rw [if_neg (Ne.symm inside)]
    rfl
  · have below : other.isEmpty = false := List.isEmpty_eq_false_iff.mpr root
    rw [below, OrderedMap.insert, OrderedMap.get?_alter]
    rfl

theorem addsFolders_put {t : FileTree} {place : List String} (nothing : t.entry? place = none) :
    AddsFolders t (t.put place .folder) where
  current := rfl
  entries other := by
    have inside : place ≠ [] := by
      rintro rfl
      cases nothing
    rw [entry?_put inside]
    split
    · rename_i here
      rw [here]
      exact .inr ⟨nothing, rfl⟩
    · exact .inl rfl

/-! ## Operations -/

theorem makeFolder_eq_ok {t t' : FileTree} {path : String} (made : t.makeFolder path = .ok t') :
    ∃ place, t.walk path (Path.names path) = .ok place ∧ t.entry? place = none ∧
      t' = t.put place .folder := by
  unfold makeFolder at made
  cases walked : t.walk path (Path.names path) with
  | error e =>
    rw [walked] at made
    cases made
  | ok place =>
    rw [walked] at made
    cases there : t.entry? place with
    | some e => simp [bind, Except.bind, there] at made
    | none =>
      simp only [bind, Except.bind, there, Except.ok.injEq] at made
      exact ⟨place, rfl, there, made.symm⟩

theorem addsFolders_makeFolder (t : FileTree) (path : String) :
    AddsFolders t ((MonadFiles.makeFolder path : StateM FileTree (Except FileError Unit)) t).2 := by
  show AddsFolders t (t.change (t.makeFolder path)).2
  cases made : t.makeFolder path with
  | error e => exact .refl t
  | ok t' =>
    obtain ⟨place, _, there, rfl⟩ := makeFolder_eq_ok made
    exact addsFolders_put there

theorem acceptFolder_state (path : String) (outcome : Except FileError Unit) (t : FileTree) :
    ((acceptFolder path outcome : StateM FileTree (Except FileError Unit)) t).2 = t := by
  cases outcome <;> rfl

/-- What making each of some folders comes to, making one of them with those around it does. -/
theorem makeFolderIn_rel {R : FileTree → FileTree → Prop} (refl : ∀ t, R t t)
    (trans : ∀ {t t' t''}, R t t' → R t' t'' → R t t'') {paths : List String}
    (step : ∀ path ∈ paths, ∀ t,
      R t ((MonadFiles.makeFolder path : StateM FileTree (Except FileError Unit)) t).2)
    (t : FileTree) : R t ((makeFolderIn paths : StateM FileTree (Except FileError Unit)) t).2 := by
  induction paths generalizing t with
  | nil => exact refl t
  | cons path parents ih =>
    unfold makeFolderIn
    split
    · exact refl t
    · have first := step path List.mem_cons_self t
      simp only [bind, StateT.bind]
      generalize (MonadFiles.makeFolder path : StateM FileTree (Except FileError Unit)) t = made
        at first ⊢
      obtain ⟨outcome, t'⟩ := made
      simp only
      split
      · -- Something around the folder is missing: the folders around it come first.
        have around := ih (fun path member => step path (.tail _ member)) t'
        simp only [bind, StateT.bind]
        generalize (makeFolderIn parents : StateM FileTree (Except FileError Unit)) t' = made
          at around ⊢
        obtain ⟨outcome, t''⟩ := made
        cases outcome with
        | error e => exact trans first around
        | ok _ =>
          have again := step path List.mem_cons_self t''
          show R t ((acceptFolder path _ : StateM FileTree (Except FileError Unit))
            ((MonadFiles.makeFolder path : StateM FileTree (Except FileError Unit)) t'').2).2
          rw [acceptFolder_state]
          exact trans (trans first around) again
      · rw [acceptFolder_state]
        exact first

/-- Making a folder and those around it adds folders and does nothing else. -/
theorem addsFolders_makeFolderIn (paths : List String) (t : FileTree) :
    AddsFolders t ((makeFolderIn paths : StateM FileTree (Except FileError Unit)) t).2 :=
  makeFolderIn_rel .refl .trans (fun path _ t => addsFolders_makeFolder t path) t

theorem addsFolders_makeFolders (path : String) (t : FileTree) :
    AddsFolders t ((makeFolders path : StateM FileTree (Except FileError Unit)) t).2 :=
  addsFolders_makeFolderIn (path :: Path.parents path) t

theorem fromUTF8?_toUTF8 (text : String) : String.fromUTF8? text.toUTF8 = some text := by
  have valid : text.toUTF8.IsValidUTF8 := text.isValidUTF8
  rw [String.fromUTF8?, dif_pos valid]
  rfl

/-- What a read finds at the place of its path. -/
theorem read_of_locate {t : FileTree} {path : String} {place : List String}
    (located : t.locate path = .ok place) :
    t.read path = match t.entry? place with
      | none => .error .notFound
      | some .folder => .error .isAFolder
      | some (.file content) =>
        match String.fromUTF8? content with
        | some text => .ok text
        | none => .error .notText := by
  rw [read, located]
  rfl

theorem read_of_file {t : FileTree} {path text : String} {place : List String}
    (located : t.locate path = .ok place) (there : t.entry? place = some (.file text.toUTF8)) :
    t.read path = .ok text := by
  rw [read_of_locate located, there]
  simp only [fromUTF8?_toUTF8]

theorem toUTF8_of_fromUTF8? {content : ByteArray} {text : String}
    (decoded : String.fromUTF8? content = some text) : text.toUTF8 = content := by
  rw [String.fromUTF8?] at decoded
  split at decoded
  · cases decoded
    rfl
  · cases decoded

/-- A read that succeeds has found the text in the place of its path. -/
theorem read_eq_ok {t : FileTree} {path text : String} (found : t.read path = .ok text) :
    t.locate path = .ok (t.placeOf path) ∧
      t.entry? (t.placeOf path) = some (.file text.toUTF8) := by
  cases located : t.locate path with
  | error e =>
    rw [read, located] at found
    cases found
  | ok place =>
    have here := locate_eq_ok located
    subst here
    rw [read_of_locate located] at found
    refine ⟨rfl, ?_⟩
    split at found
    · cases found
    · cases found
    · rename_i content file
      split at found
      · rename_i decoded
        cases found
        rw [file, toUTF8_of_fromUTF8? decoded]
      · cases found

/-- A write that succeeds puts the file in its place, where nothing or another file was, and
touches nothing else. -/
theorem write_eq_ok {t t' : FileTree} {path text : String} (written : t.write path text = .ok t') :
    t.locate path = .ok (t.placeOf path) ∧ t.placeOf path ≠ [] ∧
      t.entry? (t.placeOf path) ≠ some .folder ∧
      t' = t.put (t.placeOf path) (.file text.toUTF8) := by
  unfold write writeBytes at written
  cases located : t.locate path with
  | error e =>
    rw [located] at written
    cases written
  | ok place =>
    have here := locate_eq_ok located
    subst here
    rw [located] at written
    simp only [bind, Except.bind] at written
    -- Nothing can be written where a folder is, and so not at the root either.
    have notFolder : t.entry? (t.placeOf path) ≠ some .folder := by
      intro folder
      rw [folder] at written
      cases written
    refine ⟨rfl, ?_, notFolder, ?_⟩
    · intro root
      rw [root] at notFolder
      exact notFolder rfl
    · split at written
      · cases written
      · cases written
        rfl
      · split at written <;> cases written
        rfl

theorem keepsFolders_put_file {t : FileTree} {place : List String} (inside : place ≠ [])
    (notFolder : t.entry? place ≠ some .folder) (content : ByteArray) :
    KeepsFolders t (t.put place (.file content)) where
  current := rfl
  folders folder := by
    rw [entry?_put inside]
    split
    · rename_i here
      rw [here] at folder
      exact absurd folder notFolder
    · exact folder

/-- What was written to a file is read from it. -/
theorem read_of_write {t t' : FileTree} {path text : String}
    (written : t.write path text = .ok t') : t'.read path = .ok text := by
  obtain ⟨located, inside, notFolder, rfl⟩ := write_eq_ok written
  have keeps := keepsFolders_put_file inside notFolder text.toUTF8
  apply read_of_file (keeps.locate located)
  rw [entry?_put inside, if_pos rfl]

end FileTree

end DesignTokens
