import DesignTokens.Proofs.History.Run

/-!
# Taking back a revert

A revert saves the token set that it replaces as the newest version.  So
reverting to that version takes the first revert back, wherever the version
that was reverted to stood in the history, and even if it was the one that the
new version pushed out.  What is saved goes through a text, though, and a line
height that is lost there does not come back.
-/

namespace DesignTokens

open History

variable {σ α : Type} {store : Store (StateM σ)} {Holds : σ → Texts → Prop} {s s' : σ}

/-! ## What a history shows -/

/-- Whether a history lists the versions of an archive and gives its live token set. -/
structure Archive.IsShown (a : Archive) (store : Store (StateM σ)) (s : σ) : Prop where
  versions : (History.versions store).run s = (.ok a.versions, s)
  current : (History.current store).run s = (.ok a.live, s)

namespace History

theorem loadText_eq_ok {key : String} {text : Option String}
    (loaded : (loadText store key).run s = (.ok text, s')) :
    store.load key s = (.ok text, s') := by
  have run : (loadText store key).run s = _ := Fallible.run_lift_bind (store.load key) _ s
  rw [run] at loaded
  cases given : store.load key s with
  | mk outcome between =>
    rw [given] at loaded
    cases outcome with
    | error cause => cases loaded
    | ok text' =>
      cases loaded
      rfl

/-- What is loaded is the text under the key, and the state stays as it is. -/
theorem text_eq_of_load {texts : Texts} (keeps : store.Keeps Holds) (holds : Holds s texts)
    {key : String} (member : key ∈ keys) {text : Option String}
    (loaded : store.load key s = (.ok text, s')) : text = texts key ∧ s' = s := by
  obtain ⟨outcome, load, given⟩ := keeps.load holds member
  rw [load] at loaded
  cases loaded
  exact ⟨given text rfl, rfl⟩

theorem load_eq_ok [OfJson α] {key : String} {x : Option α}
    (loaded : (load store key).run s = (.ok x, s')) :
    ∃ text, store.load key s = (.ok text, s') ∧ Reads text x := by
  obtain ⟨text, between, given, read⟩ := Fallible.run_bind_eq_ok loaded
  cases text with
  | none =>
    cases read
    exact ⟨none, loadText_eq_ok given, .none⟩
  | some text =>
    simp only at read
    split at read
    · rename_i value
      cases read
      exact ⟨some text, loadText_eq_ok given, .some value⟩
    · cases read

theorem versions_eq_ok {vs : List Version} (listed : (versions store).run s = (.ok vs, s')) :
    ∃ text given, store.load versionsKey s = (.ok text, s') ∧ Reads text given ∧
      given.getD [] = vs := by
  obtain ⟨given, between, loaded, same⟩ := Fallible.run_bind_eq_ok listed
  cases same
  obtain ⟨text, found, reads⟩ := load_eq_ok loaded
  exact ⟨text, given, found, reads, rfl⟩

end History

namespace Archive

variable {a : Archive} {shelf : Shelf} {path : String} {t : FileTree}

theorem written_of_isShown {texts : Texts} (keeps : store.Keeps Holds) (holds : Holds s texts)
    (shown : a.IsShown store s) : a.Written texts := by
  obtain ⟨text, given, loaded, reads, same⟩ := versions_eq_ok shown.versions
  obtain ⟨text', loaded', reads'⟩ := load_eq_ok shown.current
  obtain ⟨rfl, -⟩ := text_eq_of_load keeps holds (by decide) loaded
  obtain ⟨rfl, -⟩ := text_eq_of_load keeps holds (by decide) loaded'
  exact ⟨⟨given, reads, same⟩, reads'⟩

theorem stored_of_isShown_memory (shown : a.IsShown Store.memory shelf) :
    a.Stored Store.OnShelf shelf :=
  ⟨shelf.get?, fun _ => rfl, written_of_isShown Store.keeps_memory (fun _ => rfl) shown⟩

end Archive

namespace Store

variable {path key other text : String} {t : FileTree} {q : List String}

theorem load_folder_eq_some (loaded : (folder path : Store (StateM FileTree)).load key t
    = (.ok (some text), t)) : t.read (filePath path key) = .ok text := by
  rw [load_folder] at loaded
  cases found : t.read (filePath path key) with
  | ok text' =>
    rw [found] at loaded
    cases loaded
    rfl
  | error e =>
    rw [found] at loaded
    cases e <;> cases loaded

theorem load_folder_eq_none (loaded : (folder path : Store (StateM FileTree)).load key t
    = (.ok none, t)) : t.read (filePath path key) = .error .notFound := by
  rw [load_folder] at loaded
  cases found : t.read (filePath path key) with
  | ok text' =>
    rw [found] at loaded
    cases loaded
  | error e =>
    rw [found] at loaded
    cases e <;> cases loaded
    rfl

/-- A file is missing beside another one only if nothing is in its place. -/
theorem entry?_of_missing (member : key ∈ History.keys) (member' : other ∈ History.keys)
    (located : t.locate (filePath path key) = .ok q)
    (missing : t.read (filePath path other) = .error .notFound) :
    t.entry? (t.placeOf (filePath path other)) = none := by
  obtain ⟨whole, given, _, _, relative⟩ := plain_of_mem_keys member
  obtain ⟨whole', given', notHere, notUp, relative'⟩ := plain_of_mem_keys member'
  have names' : Path.namesInto (filePath path other) = Path.names path ++ [other ++ ".json"] :=
    Path.namesInto_join path whole' given'
  cases located' : t.locate (filePath path other) with
  | ok place =>
    have here := FileTree.locate_eq_ok located'
    subst here
    rw [FileTree.read_of_locate located'] at missing
    split at missing
    · rename_i nothing
      exact nothing
    · cases missing
    · split at missing <;> cases missing
  | error e =>
    exfalso
    rw [FileTree.read, located'] at missing
    cases missing
    -- The other file shows that the folder is there, so its path does not break off.
    have walked := FileTree.walk_eq_ok located
    rw [filePath, Path.namesInto_join path whole given, FileTree.start,
      Path.isAbsolute_join path relative, List.foldlM_append] at walked
    rw [FileTree.locate, names', FileTree.walk, FileTree.start, filePath,
      Path.isAbsolute_join path relative', List.foldlM_append] at located'
    cases inside : List.foldlM t.enter (if Path.isAbsolute path then [] else t.current)
        (Path.names path) with
    | error e =>
      rw [inside] at walked
      cases walked
    | ok place =>
      rw [inside] at walked located'
      have folder : t.entry? place = some .folder := by
        cases entered : t.enter place (key ++ ".json") with
        | error e => simp [entered, bind, Except.bind] at walked
        | ok r => exact (FileTree.enter_eq_ok entered).1
      split at located'
      · rename_i fault
        cases located'
        exact FileTree.pathFault?_ne_notFound _ fault
      · split at located'
        · rename_i none
          rw [filePath, none] at names'
          have nothing : Path.namesInto "" = [] := by decide
          rw [nothing] at names'
          exact List.append_ne_nil_of_right_ne_nil _ (List.cons_ne_nil _ _) names'.symm
        · rcases FileTree.enter_of_folder (other ++ ".json") folder with entered | tooLong
          · simp [entered, bind, Except.bind, pure, Except.pure] at located'
          · simp [tooLong, bind, Except.bind] at located'

end Store

/-- Where a folder shows an archive with versions in it, it keeps this archive. -/
theorem Archive.stored_of_isShown_folder {a : Archive} {path : String} {t : FileTree}
    (shown : a.IsShown (Store.folder path) t) (given : a.versions ≠ []) :
    a.Stored (Store.InFolder path) t := by
  obtain ⟨text, vs, loaded, reads, same⟩ := versions_eq_ok shown.versions
  obtain ⟨text', loaded', reads'⟩ := load_eq_ok shown.current
  cases text with
  | none =>
    cases reads
    exact absurd same.symm given
  | some text =>
    obtain ⟨located, file⟩ := FileTree.read_eq_ok (Store.load_folder_eq_some loaded)
    let texts : Texts := fun key => if key = versionsKey then some text else text'
    have holds : Store.InFolder path t texts := by
      intro key member
      simp only [History.keys, List.mem_cons, List.not_mem_nil, or_false] at member
      rcases member with rfl | rfl
      · exact ⟨located, file⟩
      · cases text' with
        | none =>
          exact .inl (Store.entry?_of_missing (by decide) (by decide) located
            (Store.load_folder_eq_none loaded'))
        | some text' => exact FileTree.read_eq_ok (Store.load_folder_eq_some loaded')
    exact ⟨texts, holds, ⟨vs, reads, same⟩, reads'⟩

/-! ## Reverting and looking -/

namespace History

/-- The calls that show what a history has. -/
def look : List Call := [.versions, .latest, .current]

end History

/-- What a history with this archive answers to them. -/
def Archive.seen (a : Archive) : List Answer :=
  [.versions a.versions, .latest a.versions.head?, .current a.live]

/-- Whether none of the errors that a store may give comes up while calls are made. -/
def History.IsQuiet (store : Store (StateM σ)) (calls : List Call) (s : σ) : Prop :=
  ∀ cause, store.Gives cause → .failed (.store cause) ∉ ((run store calls).run s).1

theorem History.isQuiet_memory (calls : List Call) (shelf : Shelf) :
    IsQuiet Store.memory calls shelf :=
  fun cause gives => absurd gives (Store.not_gives_memory cause)

theorem History.Works.isQuiet {calls : List Call} (works : Works store calls s) :
    IsQuiet store calls s := by
  intro cause _ member
  cases works _ member

/-- A call that goes well is answered first, and the other calls of the run go on from there. -/
theorem History.IsQuiet.next {call : Call} {calls : List Call} {answer : Answer}
    {After : σ → Prop} (quiet : IsQuiet store (call :: calls) s)
    (goes : Goes store (call.perform store) s answer After) :
    ∃ s', After s' ∧ IsQuiet store calls s' ∧
      ((run store (call :: calls)).run s).1 = answer :: ((run store calls).run s').1 := by
  obtain ⟨actual, s', performed, result⟩ := goes
  have whole := run_cons performed (rfl : (run store calls).run s' = (_, _))
  rw [IsQuiet, whole] at quiet
  rcases result with ⟨cause, rfl, gives⟩ | ⟨rfl, after⟩
  · exact absurd List.mem_cons_self (quiet cause gives)
  · refine ⟨s', after, fun cause gives member => quiet cause gives (.tail _ member), ?_⟩
    rw [whole]
    rfl

variable {a : Archive}

theorem Archive.run_look (keeps : store.Keeps Holds) (stored : a.Stored Holds s)
    {calls : List Call} (quiet : IsQuiet store (look ++ calls) s) :
    IsQuiet store calls s ∧
      ((run store (look ++ calls)).run s).1 = a.seen ++ ((run store calls).run s).1 := by
  obtain ⟨_, rfl, quiet, listed⟩ :=
    quiet.next (goes_of_yields (a.yields_versions keeps stored) .versions)
  obtain ⟨_, rfl, quiet, newest⟩ :=
    quiet.next (goes_of_yields (a.yields_latest keeps stored) .latest)
  obtain ⟨_, rfl, quiet, live⟩ :=
    quiet.next (goes_of_yields (a.yields_current keeps stored) .current)
  refine ⟨quiet, listed.trans ?_⟩
  exact congrArg (List.cons _) (newest.trans (congrArg (List.cons _) live))

theorem History.IsQuiet.run_eq {call : Call} {calls : List Call} {success : α → Answer}
    {x : ExceptT HistoryError (StateM σ) α} {outcome : Except HistoryError α}
    (quiet : IsQuiet store (call :: calls) s)
    (performs : call.perform store = Answer.of success <$> x.run)
    (yields : Yields store x s outcome (· = s)) : x.run s = (outcome, s) := by
  obtain ⟨actual, s', done, ⟨cause, rfl, gives⟩ | ⟨rfl, rfl⟩⟩ := yields
  · have performed : (call.perform store).run s = (.failed (.store cause), s') := by
      rw [performs]
      exact run_answer done success
    rw [IsQuiet, run_cons performed rfl] at quiet
    exact absurd List.mem_cons_self (quiet cause gives)
  · exact done

/-- A history that can be read shows the archive that it keeps. -/
theorem Archive.isShown_of_stored (keeps : store.Keeps Holds) (stored : a.Stored Holds s)
    (quiet : IsQuiet store look s) : a.IsShown store s := by
  have listed := a.yields_versions keeps stored
  have newest := a.yields_latest keeps stored
  obtain ⟨_, rfl, quiet', _⟩ := quiet.next (goes_of_yields listed .versions)
  obtain ⟨_, rfl, quiet'', _⟩ := quiet'.next (goes_of_yields newest .latest)
  exact ⟨quiet.run_eq rfl listed, quiet''.run_eq rfl (a.yields_current keeps stored)⟩

/-- A history shows what it answers when it is looked at. -/
theorem Archive.isShown_of_seen {texts : Texts} (keeps : store.Keeps Holds)
    (holds : Holds s texts) {calls : List Call} {others : List Answer}
    (seen : ((run store (look ++ calls)).run s).1 = a.seen ++ others) : a.IsShown store s := by
  cases listed : (History.versions store).run s with
  | mk outcome between =>
    have first : (Call.versions.perform store).run s = (.of .versions outcome, between) :=
      run_answer listed .versions
    have all := run_cons first (rfl : (run store (.latest :: .current :: calls)).run between = _)
    obtain ⟨versions, rest⟩ := List.cons.inj ((congrArg Prod.fst all).symm.trans seen)
    cases outcome with
    | error e => cases versions
    | ok vs =>
      cases versions
      obtain ⟨_, _, loaded, _, _⟩ := versions_eq_ok listed
      obtain ⟨-, rfl⟩ := text_eq_of_load keeps holds (by decide) loaded
      -- The newest version is looked up in the list once more.
      have newest : (latest store).run between = (.ok a.versions.head?, between) :=
        Fallible.run_bind_ok listed
      have second : (Call.latest.perform store).run between
          = (.latest a.versions.head?, between) := run_answer newest .latest
      have all := run_cons second (rfl : (run store (.current :: calls)).run between = _)
      obtain ⟨_, last⟩ := List.cons.inj ((congrArg Prod.fst all).symm.trans rest)
      cases found : (History.current store).run between with
      | mk outcome after =>
        have third : (Call.current.perform store).run between = (.of .current outcome, after) :=
          run_answer found .current
        have all := run_cons third (rfl : (run store calls).run after = _)
        obtain ⟨live, _⟩ := List.cons.inj ((congrArg Prod.fst all).symm.trans last)
        cases outcome with
        | error e => cases live
        | ok tokens =>
          cases live
          obtain ⟨_, loaded, _⟩ := load_eq_ok found
          obtain ⟨-, rfl⟩ := text_eq_of_load keeps holds (by decide) loaded
          exact ⟨listed, found⟩

/-! ## Taking a revert back -/

namespace History

/-- The calls that revert to a version and, if a token set was live, to the one under which
this was saved.  After each revert they look at the history. -/
def roundTrip (first second : Stamp) (v : Version) : Option TokenSet → List Call
  | some _ => .revert first v.id :: look ++ .revert second first.id :: look
  | none => .revert first v.id :: look

/-- How they have to be answered in a history with some versions.  In the end the live token
set is the one from before. -/
def roundTripAnswers (first second : Stamp) (vs : List Version) (v : Version) :
    Option TokenSet → List Answer
  | some tokens =>
    let saved := Version.new first tokens v.fileId (revertDescription v.id)
    let again := Version.new second v.tokens v.fileId (revertDescription first.id)
    .reverted ⟨v.tokens, some saved⟩
      :: Archive.seen ⟨(saved :: vs).take capacity, some v.tokens⟩
      ++ .reverted ⟨tokens, some again⟩
      :: Archive.seen ⟨(again :: saved :: vs).take capacity, some tokens⟩
  | none => .reverted ⟨v.tokens, none⟩ :: Archive.seen ⟨vs, some v.tokens⟩

/-- Whether a history with some versions answers these calls so. -/
def TakesBack (store : Store (StateM σ)) (first second : Stamp) (vs : List Version) (v : Version)
    (live : Option TokenSet) (s : σ) : Prop :=
  ((run store (roundTrip first second v live)).run s).1 = roundTripAnswers first second vs v live

theorem find_head (v : Version) (vs : List Version) : find (v :: vs) v.id = .ok v := by
  simp [find]

theorem take_save (v w : Version) (vs : List Version) :
    (v :: (w :: vs).take capacity).take capacity = (v :: w :: vs).take capacity := by
  simp [capacity, List.take_take]

theorem takesBack_iff_of_stored (keeps : store.Keeps Holds) {vs : List Version} {v : Version}
    {live : Option TokenSet} (stored : Archive.Stored ⟨vs, live⟩ Holds s)
    (found : find vs v.id = .ok v) {first second : Stamp}
    (quiet : IsQuiet store (roundTrip first second v live) s) :
    TakesBack store first second vs v live s ↔ Archive.RevertsLosslessly ⟨vs, live⟩ v := by
  obtain ⟨texts, holds, written⟩ := stored
  have after := written.revert_iff first v v.id
  have reverted := goes_of_yields
    (Archive.yields_revert_of_find keeps holds written first found) .reverted
  rw [TakesBack, ← after]
  cases live with
  | none =>
    obtain ⟨s', holds', quiet, answered⟩ := quiet.next reverted
    constructor
    · intro takes
      have seen : ((run store (look ++ [])).run s').1 = Archive.seen ⟨vs, some v.tokens⟩ ++ [] :=
        (List.cons.inj (answered.symm.trans takes)).2
      exact Archive.written_of_isShown keeps holds' (Archive.isShown_of_seen keeps holds' seen)
    · intro written'
      obtain ⟨_, seen⟩ := Archive.run_look keeps ⟨_, holds', written'⟩
        (show IsQuiet store (look ++ []) s' from quiet)
      exact answered.trans (congrArg (List.cons _) seen)
  | some tokens =>
    obtain ⟨s', holds', quiet, answered⟩ := quiet.next reverted
    constructor
    · intro takes
      have seen := (List.cons.inj (answered.symm.trans takes)).2
      exact Archive.written_of_isShown keeps holds' (Archive.isShown_of_seen keeps holds' seen)
    · intro written'
      obtain ⟨quiet, seen⟩ := Archive.run_look keeps ⟨_, holds', written'⟩ quiet
      have newest := find_head (autoSaved first v v.id tokens) (vs.take 9)
      obtain ⟨s'', holds'', quiet, answered'⟩ := quiet.next (goes_of_yields
        (Archive.yields_revert_of_find keeps holds' written' second newest) .reverted)
      -- What the second revert writes was read before it, so it comes through as well.
      obtain ⟨own, others⟩ := after.mp written'
      obtain ⟨saved, older⟩ := others tokens rfl
      have kept : ∀ w ∈ (Archive.save ⟨vs, some tokens⟩
          (autoSaved first v v.id tokens)).versions, w.tokens.IsLossless :=
        Archive.forall_mem_save_iff.mpr ⟨saved, older⟩
      have written'' := (written'.revert_iff second (autoSaved first v v.id tokens) first.id).mpr
        ⟨saved, fun _ given => ⟨Option.some.inj given ▸ own, fun w member =>
          kept w (List.mem_of_mem_take member)⟩⟩
      obtain ⟨_, seen'⟩ := Archive.run_look keeps ⟨_, holds'', written''⟩
        (show IsQuiet store (look ++ []) s'' from quiet)
      rw [roundTripAnswers, ← take_save]
      refine answered.trans (congrArg (List.cons _) (seen.trans (congrArg _ (answered'.trans ?_))))
      exact congrArg (List.cons _) seen'

/-- A revert saves the live token set as the newest version of those that are kept, and
reverting to this version makes it live again, if what the revert writes comes through and only
then. -/
theorem revert_taken_back_iff (vs : List Version) (live : Option TokenSet) (v : Version)
    (first second : Stamp) (member : v ∈ vs) (own : ∀ w ∈ vs, w.id = v.id → w = v) :
    (∀ shelf, Archive.IsShown ⟨vs, live⟩ Store.memory shelf →
      (TakesBack Store.memory first second vs v live shelf ↔
        Archive.RevertsLosslessly ⟨vs, live⟩ v)) ∧
    ∀ (path : String) (t : FileTree), Archive.IsShown ⟨vs, live⟩ (Store.folder path) t →
      Works (Store.folder path) (roundTrip first second v live) t →
      (TakesBack (Store.folder path) first second vs v live t ↔
        Archive.RevertsLosslessly ⟨vs, live⟩ v) := by
  have found := find_of_own member own
  constructor
  · intro shelf shown
    have stored := Archive.stored_of_isShown_memory shown
    exact takesBack_iff_of_stored Store.keeps_memory stored found (isQuiet_memory _ shelf)
  · intro path t shown works
    have stored := Archive.stored_of_isShown_folder shown (List.ne_nil_of_mem member)
    exact takesBack_iff_of_stored (Store.keeps_folder path) stored found works.isQuiet

/-- A version of an empty token set. -/
def emptyVersion (id : String) : Version := Version.new ⟨id, 0⟩ .empty "file" ""

/-- A full history, of which `emptyVersion "0"` is the first version to go. -/
def fullHistory : List Version :=
  ["9", "8", "7", "6", "5", "4", "3", "2", "1", "0"].map emptyVersion

theorem isLossless_empty : TokenSet.empty.IsLossless :=
  fun _ member => absurd member List.not_mem_nil

theorem isLossless_emptyVersions (ids : List String) :
    ∀ v ∈ ids.map emptyVersion, v.tokens.IsLossless := by
  intro v member
  obtain ⟨id, _, rfl⟩ := List.mem_map.mp member
  exact isLossless_empty

/-- A token set with a single text style of some line height. -/
def caption (height : Float) : TokenSet :=
  ⟨.empty, .ofList [("caption", ⟨"Inter", "12px", 400, height, "0px"⟩)], .empty, .empty⟩

/-- The full history in memory with a line height of `14.4`, and a history in a folder that has no
live token set. -/
theorem revert_taken_back_emptyVersion :
    TakesBack Store.memory ⟨"a", 1⟩ ⟨"b", 2⟩ fullHistory (emptyVersion "0") (some (caption 14.4))
      (.ofList [(versionsKey, (toJson fullHistory).compact),
        (currentKey, (toJson (caption 14.4)).compact)]) ∧
    TakesBack (Store.folder "state") ⟨"a", 1⟩ ⟨"b", 2⟩ [emptyVersion "0"] (emptyVersion "0") none
      ((FileTree.empty.put ["state"] .folder).put ["state", "token-history.json"]
        (.file (toJson [emptyVersion "0"]).compact.toUTF8)) := by
  constructor
  · have versions := isLossless_emptyVersions ["9", "8", "7", "6", "5", "4", "3", "2", "1", "0"]
    have height : (caption 14.4).IsLossless := by decide +kernel
    refine ((revert_taken_back_iff fullHistory (some (caption 14.4)) (emptyVersion "0") _ _ ?_
      ?_).1 _ ?_).mpr ⟨isLossless_empty, ?_⟩
    · simp [fullHistory]
    · simp [fullHistory, emptyVersion, Version.new]
    · refine Archive.isShown_of_stored Store.keeps_memory ⟨_, fun _ => rfl, ?_, ?_⟩
        (isQuiet_memory _ _)
      · exact ⟨some fullHistory, .some (read_versions_iff.mpr versions), rfl⟩
      · exact .some (read_tokenSet_iff.mpr height)
    · rintro _ ⟨⟩
      exact ⟨height, fun w member => versions w (List.mem_of_mem_take member)⟩
  · have versions := isLossless_emptyVersions ["0"]
    let texts : Texts := .put (fun _ => none) versionsKey (toJson [emptyVersion "0"]).compact
    refine ((revert_taken_back_iff [emptyVersion "0"] none (emptyVersion "0") _ _ ?_ ?_).2
      _ _ ?_ ?_).mpr ⟨isLossless_empty, fun _ given => by cases given⟩
    · simp
    · simp
    · refine Archive.isShown_of_stored (Store.keeps_folder _) ⟨texts, ?_, ?_, .none⟩
        (Works.isQuiet ?_)
      · intro key member
        simp only [keys, List.mem_cons, List.not_mem_nil, or_false] at member
        rcases member with rfl | rfl
        · exact ⟨rfl, rfl⟩
        · exact .inl rfl
      · exact ⟨some [emptyVersion "0"], .some (read_versions_iff.mpr versions), rfl⟩
      · decide +kernel
    · decide +kernel

/-- The text of a live token set that was written by another program, which gives the line height
with more digits than a double needs. -/
def longCaption : String :=
  "\x7b\"typography\":\x7b\"caption\":\x7b\"fontFamily\":\"Inter\",\"fontSize\":\"12px\","
    ++ "\"fontWeight\":400,\"lineHeight\":14.399999999999998,\"letterSpacing\":\"0px\"\x7d\x7d\x7d"

/-- The line height of that text is the double below `14.4`.  The version that a revert saves it in
is read as one with `14.4`, so reverting to it does not bring the live token set back. -/
theorem revert_not_taken_back_longCaption :
    ∃ height : Float, Decimal.isFinite height = true ∧
      let shelf : Shelf := .ofList [(versionsKey, (toJson [emptyVersion "0"]).compact),
        (currentKey, longCaption)]
      Archive.IsShown ⟨[emptyVersion "0"], some (caption height)⟩ Store.memory shelf ∧
      ¬ TakesBack Store.memory ⟨"a", 1⟩ ⟨"b", 2⟩ [emptyVersion "0"] (emptyVersion "0")
        (some (caption height)) shelf := by
  refine ⟨.ofBits 4624296097384025292, by decide +kernel, ?_⟩
  intro shelf
  have read : (Json.read? longCaption).bind ofJson?
      = some (caption (.ofBits 4624296097384025292)) := by decide +kernel
  have versions := isLossless_emptyVersions ["0"]
  have stored : Archive.Stored
      ⟨[emptyVersion "0"], some (caption (.ofBits 4624296097384025292))⟩ Store.OnShelf shelf :=
    ⟨_, fun _ => rfl, ⟨some [emptyVersion "0"], .some (read_versions_iff.mpr versions), rfl⟩,
      .some read⟩
  refine ⟨Archive.isShown_of_stored Store.keeps_memory stored (isQuiet_memory _ _), ?_⟩
  rw [takesBack_iff_of_stored Store.keeps_memory stored (find_head _ _) (isQuiet_memory _ _)]
  intro lossless
  have lost : ¬ (caption (.ofBits 4624296097384025292)).IsLossless := by decide +kernel
  exact lost (lossless.2 _ rfl).1

end History

end DesignTokens
