import DesignTokens.Proofs.CommandLine.Writing
import DesignTokens.Proofs.Files.Watched
import DesignTokens.Proofs.History.Store

/-!
# What a command that fails leaves behind

Commands read and check everything before they change a file.  So a command that
fails for another reason than a change of files has changed nothing, but for one
case: saving a version makes the token set live before it looks at the history.
-/

namespace DesignTokens

open Fallible

instance : BlamesFiles HistoryError := ⟨fun e cause => e = .store cause⟩

instance : BlamesFiles CommandError :=
  ⟨fun e cause => (∃ path, e = .write path cause) ∨ e = .history (.store cause)⟩

/-! ## Histories in a folder -/

namespace Store

theorem load_watched (path key : String) (w : Watched) :
    (folder path : Store (StateM Watched)).load key w =
      (((folder path : Store (StateM FileTree)).load key w.tree).1, w) := by
  have read : (readText (filePath path key) : StateM Watched (Except FileError String)) w
      = (w.tree.read (filePath path key), w) := rfl
  rw [load_folder]
  simp only [folder, bind, StateT.bind, read]
  cases w.tree.read (filePath path key) with
  | ok text => rfl
  | error e => cases e <;> rfl

theorem looks_load (path key : String) :
    Looks (ExceptT.mk ((folder path : Store (StateM FileTree)).load key))
      (ExceptT.mk ((folder path : Store (StateM Watched)).load key)) := by
  intro w
  have plain := load_folder path key w.tree
  have watched := load_watched path key w
  rw [plain] at watched
  exact ⟨_, plain, watched⟩

/-- A save makes the folder and writes a file there. -/
theorem save_folder_eq {σ : Type} [MonadFiles (StateM σ)] (path key text : String) :
    ExceptT.mk ((folder path : Store (StateM σ)).save key text) =
      ExceptT.mk (makeFolders path : StateM σ (Except FileError Unit)) >>= fun _ =>
        ExceptT.mk (writeText (filePath path key) text) := by
  funext s
  show (folder path : Store (StateM σ)).save key text s = _
  cases made : (makeFolders path : StateM σ (Except FileError Unit)) s with
  | mk outcome s' =>
    simp only [folder, bind, StateT.bind, made]
    cases outcome with
    | error e => exact (run_bind_error made).symm
    | ok _ =>
      exact (run_bind_ok (x := ExceptT.mk (makeFolders path))
        (f := fun _ => ExceptT.mk (writeText (filePath path key) text)) made).symm

theorem writes_save (path key text : String) :
    Writes (ExceptT.mk ((folder path : Store (StateM FileTree)).save key text))
      (ExceptT.mk ((folder path : Store (StateM Watched)).save key text)) := by
  rw [save_folder_eq, save_folder_eq]
  exact (writes_makeFolders path).bind fun _ => writes_writeText _ text

/-- After a save that succeeded, no fault is known. -/
theorem fault_of_saved {path key text : String} {w w' : Watched}
    (saved : (folder path : Store (StateM Watched)).save key text w = (.ok (), w')) :
    w'.fault = none := by
  have saved : (ExceptT.mk ((folder path : Store (StateM Watched)).save key text)).run w
      = (.ok (), w') := saved
  rw [save_folder_eq] at saved
  obtain ⟨_, between, _, written⟩ := run_bind_eq_ok saved
  change between.attempt (between.tree.write (filePath path key) text) = _ at written
  cases changed : between.tree.write (filePath path key) text with
  | error e =>
    rw [changed] at written
    cases written
  | ok t =>
    rw [changed] at written
    cases written
    rfl

end Store

namespace History

theorem loadText_eq {m : Type → Type} [Monad m] (store : Store m) (key : String) :
    loadText store key = passOn .store (store.load key) :=
  lift_bind_eq_passOn (fun _ => rfl) fun _ => rfl

theorem saveText_eq {m : Type → Type} [Monad m] (store : Store m) (key text : String) :
    saveText store key text = passOn .store (store.save key text) :=
  lift_bind_eq_passOn (fun _ => rfl) fun _ => rfl

variable (path : String)

theorem looks_loadText (key : String) :
    Looks (loadText (.folder path) key) (loadText (.folder path) key) := by
  rw [loadText_eq, loadText_eq]
  exact (Store.looks_load path key).passOn _

theorem writes_saveText (key text : String) :
    Writes (saveText (.folder path) key text) (saveText (.folder path) key text) := by
  rw [saveText_eq, saveText_eq]
  exact (Store.writes_save path key text).passOn fun _ _ same => congrArg HistoryError.store same

theorem looks_value {α : Type} [OfJson α] (key : String) :
    Looks (load (.folder path) key : ExceptT HistoryError (StateM FileTree) (Option α))
      (load (.folder path) key) := by
  refine (looks_loadText path key).bind fun text? => ?_
  cases text? with
  | none => exact looks_pure none
  | some text =>
    dsimp only
    cases ((Json.read? text).bind ofJson? : Option α) with
    | none => exact looks_throw HistoryError.json
    | some x => exact looks_pure (some x)

theorem looks_versions : Looks (versions (.folder path)) (versions (.folder path)) :=
  (looks_value path versionsKey).bind fun vs => looks_pure (vs.getD [])

theorem looks_get (id : String) : Looks (get (.folder path) id) (get (.folder path) id) :=
  (looks_versions path).bind fun vs => looks_lift (find vs id)

theorem looks_compare (oldId newId : String) :
    Looks (compare (.folder path) oldId newId) (compare (.folder path) oldId newId) :=
  (looks_versions path).bind fun vs => (looks_lift (find vs oldId)).bind fun old =>
    (looks_lift (find vs newId)).bind fun new => looks_pure (old.tokens.changes new.tokens)

theorem writes_setCurrent (tokens : TokenSet) :
    Writes (setCurrent (.folder path) tokens) (setCurrent (.folder path) tokens) :=
  writes_saveText path currentKey _

/-- When a token set has been made live, no fault is known. -/
theorem fault_of_setCurrent {path : String} {tokens : TokenSet} {w w' : Watched}
    (live : (setCurrent (.folder path) tokens : ExceptT HistoryError (StateM Watched) Unit).run w
      = (.ok (), w')) : w'.fault = none := by
  rw [setCurrent, saveText_eq, run_passOn] at live
  cases saved : (Store.folder path : Store (StateM Watched)).save currentKey
      (toJson tokens).compact w with
  | mk outcome w'' =>
    rw [saved] at live
    cases outcome with
    | error e => cases live
    | ok _ =>
      cases live
      exact Store.fault_of_saved saved

/-- Saving looks at the versions first and only then writes. -/
theorem failsEarly_save (stamp : Stamp) (tokens : TokenSet) (fileId description : String) :
    FailsEarly (save (.folder path) stamp tokens fileId description)
      (save (.folder path) stamp tokens fileId description) :=
  (looks_versions path).bind_failsEarly fun _ =>
    ((writes_saveText path versionsKey _).bind fun _ => writes_pure _).failsEarly

/-- Reverting looks at everything it needs before the first write.  Between that write and the next
one there is nothing left to look at. -/
theorem failsEarly_revert (stamp : Stamp) (id : String) :
    FailsEarly (revert (.folder path) stamp id) (revert (.folder path) stamp id) := by
  refine (looks_get path id).bind_failsEarly fun target => ?_
  refine (looks_value path currentKey).bind_failsEarly fun live? => ?_
  cases live? with
  | none => exact ((writes_setCurrent path target.tokens).bind fun _ => writes_pure _).failsEarly
  | some tokens =>
    have saved : FailsEarly
        (some <$> save (.folder path) stamp tokens target.fileId (revertDescription id))
        (some <$> save (.folder path) stamp tokens target.fileId (revertDescription id)) :=
      (failsEarly_save path stamp tokens _ _).bind_writes fun version => writes_pure (some version)
    exact saved.bind_writes fun _ =>
      (writes_setCurrent path target.tokens).bind fun _ => writes_pure _

end History

/-! ## Steps of commands -/

namespace Command

section

variable {m : Type → Type} [Monad m] [MonadFiles m]

theorem readInput_eq (path : String) :
    (readInput path : ExceptT CommandError m String) =
      passOn (CommandError.read path) (readText path : m (Except FileError String)) :=
  lift_bind_eq_passOn (fun _ => rfl) fun _ => rfl

theorem prepareFolder_eq (path : String) :
    (prepareFolder path : ExceptT CommandError m Unit) =
      passOn (CommandError.write path) (makeFolders path : m (Except FileError Unit)) :=
  lift_bind_eq_passOn (fun _ => rfl) fun _ => rfl

theorem writeFile_eq (path text : String) :
    (writeFile path text : ExceptT CommandError m Unit) =
      passOn (CommandError.write path) (writeText path text : m (Except FileError Unit)) :=
  lift_bind_eq_passOn (fun _ => rfl) fun _ => rfl

end

theorem recorded_eq {α : Type} {m : Type → Type} [Monad m] (x : ExceptT HistoryError m α) :
    recorded x = passOn CommandError.history x.run :=
  lift_bind_eq_passOn (fun _ => rfl) fun _ => rfl

theorem looks_readInput (path : String) : Looks (readInput path) (readInput path) := by
  rw [readInput_eq, readInput_eq]
  exact (looks_readText path).passOn _

theorem looks_readValue {α : Type} [OfJson α] (path : String) :
    Looks (readValue path : OnTree α) (readValue path) := by
  refine (looks_readInput path).bind fun text => ?_
  cases ((Json.read? text).bind ofJson? : Option α) with
  | none => exact looks_throw (CommandError.json path)
  | some x => exact looks_pure x

theorem looks_extractFrom (path : String) (options : ExtractionOptions) :
    Looks (extractFrom path options) (extractFrom path options) := by
  refine (looks_readInput path).bind fun text => ?_
  cases Document.ofText? text with
  | error cause => exact looks_throw (CommandError.extraction cause)
  | ok document => exact looks_pure _

theorem looks_generated {α : Type} (outcome : Except GenerationError α) :
    Looks (generated outcome) (generated outcome) := by
  cases outcome with
  | error cause => exact looks_throw (CommandError.generation cause)
  | ok x => exact looks_pure x

theorem writes_prepareFolder (path : String) :
    Writes (prepareFolder path) (prepareFolder path) := by
  rw [prepareFolder_eq, prepareFolder_eq]
  exact (writes_makeFolders path).passOn fun e _ same => .inl ⟨path, same ▸ rfl⟩

theorem writes_writeFile (path text : String) :
    Writes (writeFile path text) (writeFile path text) := by
  rw [writeFile_eq, writeFile_eq]
  exact (writes_writeText path text).passOn fun e _ same => .inl ⟨path, same ▸ rfl⟩

theorem writes_output (path : Option String) (text : String) :
    Writes (output path text) (output path text) := by
  cases path with
  | none => exact writes_pure _
  | some path =>
    have last : Writes (writeFile path text >>= fun _ => pure (Printed.ofNote ("Wrote: " ++ path)))
        (writeFile path text >>= fun _ => pure (Printed.ofNote ("Wrote: " ++ path))) :=
      (writes_writeFile path text).bind fun _ => writes_pure _
    rw [output, output]
    cases Path.parent? path with
    | none => exact last
    | some parent => exact (writes_prepareFolder parent).bind fun _ => last

theorem writes_writeFiles (folder : String) (files : List GeneratedFile) :
    Writes (writeFiles folder files) (writeFiles folder files) := by
  induction files with
  | nil => exact writes_pure ()
  | cons file files ih =>
    exact (writes_prepareFolder _).bind fun _ => (writes_writeFile _ _).bind fun _ => ih

/-! ## Commands -/

theorem failsEarly_runExtract (c : ExtractCommand) : FailsEarly (runExtract c) (runExtract c) :=
  (looks_extractFrom _ _).bind_failsEarly fun _ => (writes_output _ _).failsEarly

theorem failsEarly_runGenerate (c : GenerateCommand) :
    FailsEarly (runGenerate c) (runGenerate c) := by
  refine (looks_generated _).bind_failsEarly fun options => ?_
  have last (tokens : List Token) : FailsEarly _ _ :=
    (looks_generated (Session.start .standard options)).bind_failsEarly fun session =>
      (looks_generated (session.generate tokens)).bind_failsEarly fun files =>
        ((writes_writeFiles c.folder files).bind fun _ => writes_pure
          (Printed.ofNote ("Generated " ++ Decimal.wholeText files.length ++ " files in "
            ++ c.folder))).failsEarly
  dsimp only
  split
  · exact (looks_extractFrom c.path .shallow).bind_failsEarly last
  · exact (looks_readValue c.path).bind_failsEarly last

theorem failsEarly_runExport (c : ExportCommand) : FailsEarly (runExport c) (runExport c) := by
  rw [runExport, runExport]
  cases (Alternatives.ofText? c.format : Option ExportFormat) with
  | none => exact (looks_throw (CommandError.unsupportedFormat c.format)).failsEarly
  | some format =>
    exact (looks_readValue c.path).bind_failsEarly fun tokens => (writes_output _ _).failsEarly

/-! ## Commands on histories -/

section

variable {α : Type} {x : ExceptT HistoryError (StateM FileTree) α}
  {y : ExceptT HistoryError (StateM Watched) α} {w w' : Watched}

theorem blames_history (e : HistoryError) (cause : FileError) (blamed : Blames e cause) :
    Blames (CommandError.history e) cause := .inr (congrArg CommandError.history blamed)

theorem runs_recorded {outcome : Except HistoryError α} (runs : Runs x y w outcome w') :
    Runs (recorded x) (recorded y) w (outcome.mapError .history) w' := by
  rw [recorded_eq, recorded_eq]
  exact runs_passOn runs

theorem looks_recorded (looks : Looks x y) : Looks (recorded x) (recorded y) := by
  rw [recorded_eq, recorded_eq]
  exact looks.passOn _

theorem failsEarly_recorded (early : FailsEarly x y) : FailsEarly (recorded x) (recorded y) := by
  rw [recorded_eq, recorded_eq]
  exact early.passOn blames_history

end

/-- A version is to be saved into a history that cannot be read.  By the time this is
found out, its token set has been made live. -/
def SavesInVain (c : Command) (t t' : FileTree) (cause : CommandError) : Prop :=
  ∃ folder path fileId description tokens reason,
    let store : Store (StateM FileTree) := .folder folder
    c = .history folder (.save path fileId description) ∧
    valueIn TokenSet path t = .ok tokens ∧
    (History.setCurrent store tokens).run t = (.ok (), t') ∧
    (History.versions store).run t' = (.error reason, t') ∧
    cause = .history reason

theorem runs_of_savesInVain {c : Command} {t t' : FileTree} {cause : CommandError}
    (vain : c.SavesInVain t t' cause) (stamp : Stamp) :
    Runs (run stamp c) (run stamp c) ⟨t, none⟩ (.error cause) ⟨t', none⟩ := by
  obtain ⟨folder, path, fileId, description, tokens, reason, rfl, given, live, unread, rfl⟩ := vain
  obtain ⟨_, read⟩ := looks_readValue (α := TokenSet) path ⟨t, none⟩
  obtain ⟨rfl, _⟩ := read.of_plain (run_readValue path t)
  rw [given] at read
  obtain ⟨_, w, lives, _⟩ := History.writes_setCurrent folder tokens ⟨t, none⟩
  obtain ⟨rfl, rfl⟩ := lives.of_plain live
  -- That the token set was made live means that no change has failed.
  have sound : (⟨w.tree, none⟩ : Watched) = w := by
    rw [← History.fault_of_setCurrent lives.watched]
  obtain ⟨_, looks⟩ := History.looks_versions folder w
  obtain ⟨rfl, _⟩ := looks.of_plain unread
  rw [sound]
  exact read.bind_ok ((runs_recorded lives).bind_ok (runs_recorded looks.bind_error).bind_error)

/-- All commands but one look at everything before they change anything. -/
theorem failsEarly_run (stamp : Stamp) {c : Command}
    (other : ∀ folder path fileId description,
      c ≠ .history folder (.save path fileId description)) :
    FailsEarly (run stamp c) (run stamp c) := by
  cases c with
  | extract c => exact failsEarly_runExtract c
  | generate c => exact failsEarly_runGenerate c
  | exportSet c => exact failsEarly_runExport c
  | history folder c =>
    cases c with
    | save path fileId description => exact absurd rfl (other folder path fileId description)
    | list =>
      exact ((looks_recorded (History.looks_versions folder)).bind fun _ => looks_pure _).failsEarly
    | «show» id =>
      exact ((looks_recorded (History.looks_get folder id)).bind fun _ => looks_pure _).failsEarly
    | diff oldId newId =>
      exact ((looks_recorded (History.looks_compare folder oldId newId)).bind
        fun _ => looks_pure _).failsEarly
    | revert id =>
      exact (failsEarly_recorded (History.failsEarly_revert folder stamp id)).bind_writes
        fun _ => writes_pure _

/-- Saving a version fails early, or it is in vain. -/
theorem exists_runs_save (stamp : Stamp) (folder path fileId description : String) (t : FileTree) :
    let c : Command := .history folder (.save path fileId description)
    ∃ outcome w', Runs (run stamp c) (run stamp c) ⟨t, none⟩ outcome w' ∧
      (IsBlamed outcome w' ∨ w' = ⟨t, none⟩ ∨
        ∃ cause, outcome = .error cause ∧ w'.fault = none ∧ c.SavesInVain t w'.tree cause) := by
  intro c
  obtain ⟨outcome, read⟩ := looks_readValue (α := TokenSet) path ⟨t, none⟩
  cases outcome with
  | error cause => exact ⟨.error cause, _, read.bind_error, .inr (.inl rfl)⟩
  | ok tokens =>
  have given : valueIn TokenSet path t = .ok tokens := by
    obtain ⟨same, _⟩ := read.of_plain (run_readValue path t)
    exact same.symm
  obtain ⟨outcome, w, lives, blamed⟩ := History.writes_setCurrent folder tokens ⟨t, none⟩
  cases outcome with
  | error e =>
    have blamed : IsBlamed (.error (.history e) : Except CommandError Unit) w :=
      blamed.mapError blames_history
    exact ⟨_, w, read.bind_ok (runs_recorded lives).bind_error,
      .inl (isBlamed_error.mpr (isBlamed_error.mp blamed))⟩
  | ok _ =>
  -- The token set is live.  Only now the command looks at the history.
  obtain ⟨outcome, looks⟩ := History.looks_versions folder w
  cases outcome with
  | error reason =>
    have vain : c.SavesInVain t w.tree (.history reason) :=
      ⟨folder, path, fileId, description, tokens, reason, rfl, given, lives.plain, looks.plain, rfl⟩
    exact ⟨_, _, runs_of_savesInVain vain stamp, .inr (.inr ⟨_, rfl, rfl, vain⟩)⟩
  | ok vs =>
    let version := Version.new stamp tokens fileId description
    obtain ⟨_, _, saves, blamed⟩ := ((History.writes_saveText folder History.versionsKey
      (toJson ((version :: vs).take History.capacity)).compact).bind fun _ => writes_pure version) w
    have saved : WritesFrom w
        (recorded (History.save (.folder folder) stamp tokens fileId description))
        (recorded (History.save (.folder folder) stamp tokens fileId description)) :=
      ⟨_, _, runs_recorded (looks.bind_ok saves), blamed.mapError blames_history⟩
    obtain ⟨_, _, rest, blamed⟩ :=
      saved.bind fun version => writes_pure (Printed.ofResult version.id)
    exact ⟨_, _, read.bind_ok ((runs_recorded lives).bind_ok rest), .inl blamed⟩

theorem failsEarly_or_savesInVain (stamp : Stamp) (c : Command) (t : FileTree) :
    ∃ outcome w, Runs (run stamp c) (run stamp c) ⟨t, none⟩ outcome w ∧
      (IsBlamed outcome w ∨ w = ⟨t, none⟩ ∨
        ∃ cause, outcome = .error cause ∧ w.fault = none ∧ c.SavesInVain t w.tree cause) := by
  by_cases saves : ∃ folder path fileId description,
      c = .history folder (.save path fileId description)
  · obtain ⟨folder, path, fileId, description, rfl⟩ := saves
    exact exists_runs_save stamp folder path fileId description t
  · have other : ∀ folder path fileId description,
        c ≠ .history folder (.save path fileId description) :=
      fun folder path fileId description same => saves ⟨folder, path, fileId, description, same⟩
    obtain ⟨outcome, w, runs, early⟩ := failsEarly_run stamp other ⟨t, none⟩
    exact ⟨outcome, w, runs, early.imp_right .inl⟩

end Command

/-! ## Command lines -/

/-- What the user sees of the outcome of a command. -/
def Outcome.ofResult : Except CommandError Printed → Outcome
  | .ok printed => .done printed
  | .error cause => .failed cause

/-- Carrying out a command line is carrying out its command. -/
theorem runArguments_of_ok {σ : Type} [MonadFiles (StateM σ)] {arguments : List String}
    {c : Command} (read : Command.ofArguments arguments = .ok c) {stamp : Stamp} {s s' : σ}
    {outcome : Except CommandError Printed}
    (ran : (Command.run stamp c : ExceptT CommandError (StateM σ) Printed) s = (outcome, s')) :
    (runArguments stamp arguments : StateM σ Outcome) s = (.ofResult outcome, s') := by
  rw [runArguments, read]
  simp only [bind, StateT.bind, ExceptT.run, ran]
  cases outcome <;> rfl

/-- A command line that fails for another reason than a change of files leaves every
file as it was, and so does one that is refused.  The one exception is saving a
version into a history that cannot be read, which always fails when the token set
has been made live already. -/
theorem failures_leave_files_alone (stamp : Stamp) (arguments : List String) (t : FileTree) :
    let after := (runArguments stamp arguments : StateM Watched Outcome) ⟨t, none⟩
    (runArguments stamp arguments : StateM FileTree Outcome) t = (after.1, after.2.tree) ∧
    (∀ reason, after.1 = .refused reason → after.2.tree = t) ∧
    (∀ cause, after.1 = .failed cause →
      (∃ e, after.2.fault = some e ∧ Blames cause e) ∨
      after.2.fault = none ∧ (after.2.tree = t ∨
        ∃ c, Command.ofArguments arguments = .ok c ∧ c.SavesInVain t after.2.tree cause)) ∧
    ∀ c t' cause, Command.ofArguments arguments = .ok c → c.SavesInVain t t' cause →
      after = (.failed cause, ⟨t', none⟩) := by
  cases read : Command.ofArguments arguments with
  | error reason =>
    have refused {σ : Type} [MonadFiles (StateM σ)] (s : σ) :
        (runArguments stamp arguments : StateM σ Outcome) s = (.refused reason, s) := by
      rw [runArguments, read]
      rfl
    rw [refused, refused]
    exact ⟨rfl, fun _ _ => rfl, nofun, fun _ _ _ accepted => by cases accepted⟩
  | ok c =>
    obtain ⟨outcome, w, runs, known⟩ := Command.failsEarly_or_savesInVain stamp c t
    rw [runArguments_of_ok read runs.plain, runArguments_of_ok read runs.watched]
    refine ⟨rfl, fun reason refused => ?_, fun cause failed => ?_, fun c' t' cause same vain => ?_⟩
    · cases outcome <;> cases refused
    · obtain rfl : outcome = .error cause := by
        cases outcome <;> cases failed
        rfl
      rcases known with blamed | rfl | ⟨cause', same, clean, vain⟩
      · exact .inl (isBlamed_error.mp blamed)
      · exact .inr ⟨rfl, .inl rfl⟩
      · cases same
        exact .inr ⟨clean, .inr ⟨c, rfl, vain⟩⟩
    · cases same
      have ran := (Command.runs_of_savesInVain vain stamp).watched
      cases runs.watched.symm.trans ran
      rfl

/-- A folder with a token set beside a history that cannot be read. -/
def brokenHistory : FileTree :=
  ((FileTree.empty.put ["set.json"] (.file "\x7b\x7d".toUTF8)).put [".tokenforge"] .folder).put
    [".tokenforge", "token-history.json"] (.file "no list".toUTF8)

theorem failures_leave_files_alone_brokenHistory :
    let after := (runArguments ⟨"v2", 0⟩ ["history", "revert", "v1"] : StateM Watched Outcome)
      ⟨brokenHistory, none⟩
    after.1 = .failed (.history .json) ∧ after.2.tree = brokenHistory := by
  have ran : let after := (runArguments ⟨"v2", 0⟩ ["history", "revert", "v1"] :
        StateM Watched Outcome) ⟨brokenHistory, none⟩
      Command.ofArguments ["history", "revert", "v1"]
        = .ok (.history ".tokenforge" (.revert "v1")) ∧
      after.1 = .failed (.history .json) ∧ after.2.fault = none := by decide
  have known := failures_leave_files_alone ⟨"v2", 0⟩ ["history", "revert", "v1"] brokenHistory
  generalize (runArguments ⟨"v2", 0⟩ ["history", "revert", "v1"] : StateM Watched Outcome)
    ⟨brokenHistory, none⟩ = after at ran known ⊢
  obtain ⟨asked, failed, clean⟩ := ran
  refine ⟨failed, ?_⟩
  rcases known.2.2.1 _ failed with ⟨e, fault, _⟩ | ⟨_, same | ⟨c, read, vain⟩⟩
  · rw [clean] at fault
    cases fault
  · exact same
  · obtain ⟨_, _, _, _, _, _, rfl, _⟩ := vain
    cases asked.symm.trans read

/-- Saving a version there fails because the history is no list, which has nothing
to do with a change of files, and leaves a live token set that was not there. -/
theorem save_beside_brokenHistory :
    let after := (runArguments ⟨"v1", 0⟩ ["history", "save", "set.json"] : StateM Watched Outcome)
      ⟨brokenHistory, none⟩
    let live := Store.filePath ".tokenforge" History.currentKey
    after.1 = .failed (.history .json) ∧ after.2.fault = none ∧
      brokenHistory.read live = .error .notFound ∧
      after.2.tree.read live = .ok (toJson TokenSet.empty).compact := by
  decide

end DesignTokens
